import RationalSimplex.Proofs.Success
import RationalSimplex.Simplex.Solve

/-!
# The points that a run reaches

A phase goes on from round to round, and the second phase begins where the
first one ended with the value zero.  The points of a run are all those at which
a tableau is recorded, also when the run never ends or is broken off later.
The budget only decides how far a run is followed: what a run with a budget
comes to is decided at a point that it reaches, and every point is reached with
all budgets that are large enough.
-/

namespace RationalSimplex.PivotRule

variable {σ : Type}

/-- A round of the rule leads from the first point to the second. -/
def Round (rule : PivotRule σ) (before after : Progress σ) : Prop :=
  rule.step before = .ok (some after)

/-- Any number of rounds, one after the other. -/
inductive Rounds (rule : PivotRule σ) : Progress σ → Progress σ → Prop where
  | none (point : Progress σ) : Rounds rule point point
  | next {before between after : Progress σ} :
      rule.Round before between →
      Rounds rule between after →
      Rounds rule before after

/-- The point at which the first phase records its first tableau. -/
structure BeginsPhaseOne (initial : Tableau) (start : σ)
    (point : Progress σ) : Prop where
  prepared : ∃ work log, initial.recheck = .ok work ∧
    work.startPhaseOne = .ok (point.tableau, log) ∧
      log.noteTableau point.tableau = .ok point.log
  state_eq : point.state = start

/-- The point at which the second phase records its first tableau, after the
first phase ended with the value zero. -/
structure BeginsPhaseTwo (ended point : Progress σ) : Prop where
  value_eq : ended.tableau.value = .ok 0
  prepared : ∃ phaseOne phaseTwo,
    ended.tableau.changePhase { ended.log with success := some true } =
        .ok (point.tableau, phaseOne, phaseTwo) ∧
      phaseTwo.noteTableau point.tableau = .ok point.log
  state_eq : point.state = ended.state

/-- The run passes the point in its first phase. -/
def ReachesInPhaseOne (rule : PivotRule σ) (initial : Tableau) (start : σ)
    (point : Progress σ) : Prop :=
  ∃ first, BeginsPhaseOne initial start first ∧ rule.Rounds first point

/-- The run passes the point in its second phase. -/
def ReachesInPhaseTwo (rule : PivotRule σ) (initial : Tableau) (start : σ)
    (point : Progress σ) : Prop :=
  ∃ ended first, rule.ReachesInPhaseOne initial start ended ∧
    rule.step ended = .ok none ∧ BeginsPhaseTwo ended first ∧
      rule.Rounds first point

/-- The run passes the point. -/
def Reaches (rule : PivotRule σ) (initial : Tableau) (start : σ)
    (point : Progress σ) : Prop :=
  rule.ReachesInPhaseOne initial start point ∨
    rule.ReachesInPhaseTwo initial start point

variable {rule : PivotRule σ} {initial : Tableau} {start : σ}
  {point before after : Progress σ}

/-! ## Rounds and budgets -/

theorem Rounds.trans {between : Progress σ}
    (earlier : rule.Rounds before between)
    (later : rule.Rounds between after) : rule.Rounds before after := by
  induction earlier with
  | none => exact later
  | next round _ induction => exact .next round (induction later)

theorem exhaust_of_stopped (stopped : rule.step point = .ok none)
    (budget : Nat) : rule.exhaust budget point = .ok point := by
  rw [exhaust.eq_def]
  simp only [stopped]

theorem exhaust_of_refused {fault : Fault}
    (refused : rule.step point = .error fault) (budget : Nat) :
    rule.exhaust budget point = .error (.fault fault) := by
  rw [exhaust.eq_def]
  simp only [refused]

theorem exhaust_zero_of_round (round : rule.Round before after) :
    rule.exhaust 0 before = .error .budget := by
  have stepped : rule.step before = .ok (some after) := round
  rw [exhaust.eq_def]
  simp only [stepped]

theorem exhaust_succ_of_round (round : rule.Round before after)
    (budget : Nat) :
    rule.exhaust (budget + 1) before = rule.exhaust budget after := by
  have stepped : rule.step before = .ok (some after) := round
  rw [exhaust.eq_def]
  simp only [stepped]

/-- What a phase comes to is decided at the point where it is left. -/
theorem exists_exhaust_zero (rule : PivotRule σ) (budget : Nat)
    (point : Progress σ) :
    ∃ last, rule.Rounds point last ∧
      rule.exhaust budget point = rule.exhaust 0 last := by
  induction budget generalizing point with
  | zero => exact ⟨point, .none point, rfl⟩
  | succ budget induction =>
      cases stepped : rule.step point with
      | error fault =>
          refine ⟨point, .none point, ?_⟩
          rw [exhaust_of_refused stepped, exhaust_of_refused stepped]
      | ok result =>
          cases result with
          | none =>
              refine ⟨point, .none point, ?_⟩
              rw [exhaust_of_stopped stepped, exhaust_of_stopped stepped]
          | some next =>
              obtain ⟨last, rounds, same⟩ := induction next
              refine ⟨last, .next stepped rounds, ?_⟩
              rw [exhaust_succ_of_round stepped, same]

theorem rounds_of_exhaust_eq_ok {budget : Nat} {final : Progress σ}
    (ran : rule.exhaust budget point = .ok final) :
    rule.Rounds point final ∧ rule.step final = .ok none := by
  obtain ⟨last, rounds, same⟩ := rule.exists_exhaust_zero budget point
  rw [same] at ran
  cases stepped : rule.step last with
  | error fault =>
      rw [exhaust_of_refused stepped] at ran
      cases ran
  | ok result =>
      cases result with
      | none =>
          rw [exhaust_of_stopped stepped] at ran
          obtain rfl := Except.ok.inj ran
          exact ⟨rounds, stepped⟩
      | some next =>
          rw [exhaust_zero_of_round stepped] at ran
          cases ran

theorem rounds_of_exhaust_eq_fault {budget : Nat} {fault : Fault}
    (broken : rule.exhaust budget point = .error (.fault fault)) :
    ∃ last, rule.Rounds point last ∧ rule.step last = .error fault := by
  obtain ⟨last, rounds, same⟩ := rule.exists_exhaust_zero budget point
  rw [same] at broken
  cases stepped : rule.step last with
  | error other =>
      rw [exhaust_of_refused stepped] at broken
      obtain rfl := Halt.fault.inj (Except.error.inj broken)
      exact ⟨last, rounds, stepped⟩
  | ok result =>
      cases result with
      | none =>
          rw [exhaust_of_stopped stepped] at broken
          cases broken
      | some next =>
          rw [exhaust_zero_of_round stepped] at broken
          cases broken

/-- Rounds use up a part of the budget and leave the rest. -/
theorem Rounds.exists_used (rounds : rule.Rounds before after) :
    ∃ used, ∀ budget,
      rule.exhaust (used + budget) before = rule.exhaust budget after := by
  induction rounds with
  | none => exact ⟨0, fun budget => by rw [Nat.zero_add]⟩
  | next round _ induction =>
      obtain ⟨used, same⟩ := induction
      refine ⟨used + 1, fun budget => ?_⟩
      rw [Nat.add_right_comm, exhaust_succ_of_round round, same]

theorem exists_round_of_exhaust {budget : Nat}
    (spent : rule.exhaust budget point = .error .budget) :
    ∃ next, rule.Round point next := by
  cases stepped : rule.step point with
  | error fault =>
      rw [exhaust_of_refused stepped] at spent
      cases spent
  | ok result =>
      cases result with
      | none =>
          rw [exhaust_of_stopped stepped] at spent
          cases spent
      | some next => exact ⟨next, stepped⟩

/-- A budget that runs out was used up round by round. -/
theorem exists_rounds_of_exhaust {budget : Nat}
    (spent : rule.exhaust budget point = .error .budget) :
    ∃ points : Nat → Progress σ, points 0 = point ∧
      ∀ index ≤ budget, rule.Round (points index) (points (index + 1)) := by
  induction budget generalizing point with
  | zero =>
      obtain ⟨next, round⟩ := exists_round_of_exhaust spent
      refine ⟨fun index => Nat.casesOn index point fun _ => next, rfl, ?_⟩
      intro index inside
      obtain rfl := Nat.le_zero.mp inside
      exact round
  | succ budget induction =>
      obtain ⟨next, round⟩ := exists_round_of_exhaust spent
      rw [exhaust_succ_of_round round] at spent
      obtain ⟨later, begins, rounds⟩ := induction spent
      refine ⟨fun index => Nat.casesOn index point later, rfl, ?_⟩
      intro index inside
      cases index with
      | zero =>
          rw [← begins] at round
          exact round
      | succ index => exact rounds index (Nat.le_of_succ_le_succ inside)

/-- A run records its tableau before it goes on. -/
theorem run_of_noteTableau (rule : PivotRule σ) {log : PhaseLog}
    (noted : log.noteTableau point.tableau = .ok point.log) (budget : Nat) :
    rule.run budget ⟨point.tableau, log, point.state⟩ =
      rule.exhaust budget point := by
  unfold run
  simp only [noted]

/-! ## Runs with a result -/

theorem lift_eq_ok_iff {α : Type} {calculation : Except Fault α} {result : α} :
    Halt.lift calculation = .ok result ↔ calculation = .ok result :=
  mapError_eq_ok_iff

theorem noteTableau_of_run {budget : Nat} {final : Progress σ}
    (ran : rule.run budget point = .ok final) :
    ∃ log, point.log.noteTableau point.tableau = .ok log ∧
      rule.exhaust budget { point with log := log } = .ok final := by
  unfold run at ran
  cases noted : point.log.noteTableau point.tableau with
  | error fault =>
      rw [noted] at ran
      cases ran
  | ok log =>
      rw [noted] at ran
      exact ⟨log, rfl, ran⟩

/-- A second phase with a result has run to its end. -/
theorem exists_run_of_solvePhaseTwo {budget : Nat} {ended : Progress σ}
    {solution : Solution} {final : σ}
    (solved : rule.solvePhaseTwo budget ended = .ok (solution, final)) :
    ∃ prepared phaseOne phaseTwo last outcome,
      ended.tableau.changePhase { ended.log with success := some true } =
          .ok (prepared, phaseOne, phaseTwo) ∧
        rule.run budget ⟨prepared, phaseTwo, ended.state⟩ = .ok last ∧
          last.tableau.finalOutcome = .ok outcome ∧
            solution = {
              outcome := outcome
              phaseOne := phaseOne
              phaseTwo := some { last.log with
                success := some (outcome.status = .optimal) }
              tableau := last.tableau
              iterations := phaseOne.pivots.length +
                phaseOne.expulsions.length + last.log.pivots.length } := by
  unfold solvePhaseTwo at solved
  obtain ⟨⟨prepared, phaseOne, phaseTwo⟩, changed, solved⟩ :=
    bind_eq_ok_iff.mp solved
  obtain ⟨last, ran, solved⟩ := bind_eq_ok_iff.mp solved
  obtain ⟨outcome, found, solved⟩ := bind_eq_ok_iff.mp solved
  rw [lift_eq_ok_iff] at changed found
  cases solved
  exact ⟨prepared, phaseOne, phaseTwo, last, outcome, changed, ran, found, rfl⟩

/-- A solve with a result has run through its first phase. -/
theorem exists_run_of_solve {budget : Nat} {solution : Solution} {final : σ}
    (solved : rule.solve budget start initial = .ok (solution, final)) :
    ∃ work prepared log ended value, initial.recheck = .ok work ∧
      work.startPhaseOne = .ok (prepared, log) ∧
        rule.run budget ⟨prepared, log, start⟩ = .ok ended ∧
          ended.tableau.value = .ok value ∧
            (value = 0 ∧
                rule.solvePhaseTwo budget ended = .ok (solution, final) ∨
              value ≠ 0 ∧ solution = {
                outcome := .infeasible
                phaseOne := { ended.log with success := some false }
                phaseTwo := none
                tableau := ended.tableau
                iterations := ended.log.pivots.length }) := by
  unfold solve at solved
  obtain ⟨work, checked, solved⟩ := bind_eq_ok_iff.mp solved
  obtain ⟨⟨prepared, log⟩, started, solved⟩ := bind_eq_ok_iff.mp solved
  obtain ⟨ended, ran, solved⟩ := bind_eq_ok_iff.mp solved
  obtain ⟨value, read, solved⟩ := bind_eq_ok_iff.mp solved
  rw [lift_eq_ok_iff] at checked started read
  rw [mapError_eq_ok_iff] at checked
  refine ⟨work, prepared, log, ended, value, checked, started, ran, read, ?_⟩
  by_cases zero : value = 0
  · rw [if_pos zero] at solved
    exact .inl ⟨zero, solved⟩
  · rw [if_neg zero] at solved
    cases solved
    exact .inr ⟨zero, rfl⟩

/-- A run that ended with its first phase. -/
structure EndsInPhaseOne (rule : PivotRule σ) (initial : Tableau) (start : σ)
    (solution : Solution) (ended : Progress σ) : Prop where
  reached : rule.ReachesInPhaseOne initial start ended
  stopped : rule.step ended = .ok none
  value_ne : ended.tableau.value ≠ .ok 0
  outcome_eq : solution.outcome = .infeasible
  tableau_eq : solution.tableau = ended.tableau
  snapshots_one : solution.phaseOne.snapshots = ended.log.snapshots
  phaseTwo_eq : solution.phaseTwo = none

/-- A run that ended with its second phase. -/
structure EndsInPhaseTwo (rule : PivotRule σ) (initial : Tableau) (start : σ)
    (solution : Solution) (ended first last : Progress σ) : Prop where
  reachedOne : rule.ReachesInPhaseOne initial start ended
  stoppedOne : rule.step ended = .ok none
  begins : BeginsPhaseTwo ended first
  rounds : rule.Rounds first last
  stopped : rule.step last = .ok none
  outcome_eq : last.tableau.finalOutcome = .ok solution.outcome
  tableau_eq : solution.tableau = last.tableau
  phaseOne_eq : ∃ phaseTwo,
    ended.tableau.changePhase { ended.log with success := some true } =
      .ok (first.tableau, solution.phaseOne, phaseTwo)
  phaseTwo_eq : ∃ success,
    solution.phaseTwo = some { last.log with success := success }

theorem EndsInPhaseTwo.reached {solution : Solution}
    {ended first last : Progress σ}
    (ends : rule.EndsInPhaseTwo initial start solution ended first last) :
    rule.ReachesInPhaseTwo initial start last :=
  ⟨ended, first, ends.reachedOne, ends.stoppedOne, ends.begins, ends.rounds⟩

theorem endsInPhaseTwo_of_solvePhaseTwo {budget : Nat} {ended : Progress σ}
    {solution : Solution} {final : σ}
    (reached : rule.ReachesInPhaseOne initial start ended)
    (stopped : rule.step ended = .ok none)
    (value : ended.tableau.value = .ok 0)
    (solved : rule.solvePhaseTwo budget ended = .ok (solution, final)) :
    ∃ first last,
      rule.EndsInPhaseTwo initial start solution ended first last := by
  obtain ⟨prepared, phaseOne, phaseTwo, last, outcome, changed, ran, found,
    rfl⟩ := exists_run_of_solvePhaseTwo solved
  obtain ⟨log, noted, exhausted⟩ := noteTableau_of_run ran
  obtain ⟨rounds, lastStopped⟩ := rounds_of_exhaust_eq_ok exhausted
  exact ⟨⟨prepared, log, ended.state⟩, last, {
    reachedOne := reached
    stoppedOne := stopped
    begins := ⟨value, ⟨phaseOne, phaseTwo, changed, noted⟩, rfl⟩
    rounds := rounds
    stopped := lastStopped
    outcome_eq := found
    tableau_eq := rfl
    phaseOne_eq := ⟨phaseTwo, changed⟩
    phaseTwo_eq := ⟨_, rfl⟩ }⟩

/-- A solution is read off the last point of one of the two phases. -/
theorem ends_of_solve {budget : Nat} {solution : Solution} {final : σ}
    (solved : rule.solve budget start initial = .ok (solution, final)) :
    (∃ ended, rule.EndsInPhaseOne initial start solution ended) ∨
      ∃ ended first last,
        rule.EndsInPhaseTwo initial start solution ended first last := by
  obtain ⟨work, prepared, fresh, ended, value, checked, started, ran, read,
    rest⟩ := exists_run_of_solve solved
  obtain ⟨log, noted, exhausted⟩ := noteTableau_of_run ran
  obtain ⟨rounds, stopped⟩ := rounds_of_exhaust_eq_ok exhausted
  have reached : rule.ReachesInPhaseOne initial start ended :=
    ⟨⟨prepared, log, start⟩, ⟨⟨work, fresh, checked, started, noted⟩, rfl⟩,
      rounds⟩
  rcases rest with ⟨rfl, solved⟩ | ⟨nonzero, rfl⟩
  · exact .inr ⟨ended,
      endsInPhaseTwo_of_solvePhaseTwo reached stopped read solved⟩
  · refine .inl ⟨ended, {
      reached := reached
      stopped := stopped
      value_ne := ?_
      outcome_eq := rfl
      tableau_eq := rfl
      snapshots_one := rfl
      phaseTwo_eq := rfl }⟩
    rw [read]
    exact fun equal => nonzero (Except.ok.inj equal)

end RationalSimplex.PivotRule
