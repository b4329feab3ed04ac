import RationalSimplex.Proofs.Program.Solve
import RationalSimplex.Proofs.Simplex.Invariant

/-!
# When a solve fails

Nothing can go wrong in a solve but the answers of the pivot rule.  All that is
looked up is there, nothing is divided by zero, and no artificial variable is
basic at another level than zero between the phases.  A solve fails exactly
when its run reaches a point where the rule answers with a pivot that is not on
offer, and it fails there.
-/

namespace RationalSimplex

namespace PivotRule

variable {σ : Type} {rule : PivotRule σ} {initial : Tableau} {start : σ}
  {program : LinearProgram} {budget : Nat} {halt : Halt} {fault : Fault}
  {point ended : Progress σ}

/-! ## The stages of a run -/

namespace BeginsPhaseOne

theorem solve_eq_error (begins : BeginsPhaseOne initial start point)
    (stopped : rule.exhaust budget point = .error halt) :
    rule.solve budget start initial = .error halt := by
  obtain ⟨work, log, checked, started, noted⟩ := begins.prepared
  have ran := rule.run_of_noteTableau noted budget
  rw [begins.state_eq, stopped] at ran
  unfold solve
  simp [checked, started, ran, Halt.lift]

theorem solve_eq_solvePhaseTwo (begins : BeginsPhaseOne initial start point)
    (exhausted : rule.exhaust budget point = .ok ended)
    (value : ended.tableau.value = .ok 0) :
    rule.solve budget start initial = rule.solvePhaseTwo budget ended := by
  obtain ⟨work, log, checked, started, noted⟩ := begins.prepared
  have ran := rule.run_of_noteTableau noted budget
  rw [begins.state_eq, exhausted] at ran
  unfold solve
  simp [checked, started, ran, value, Halt.lift]

theorem exists_solve_eq_ok (begins : BeginsPhaseOne initial start point)
    (exhausted : rule.exhaust budget point = .ok ended) {value : Rat}
    (read : ended.tableau.value = .ok value) (nonzero : value ≠ 0) :
    ∃ result, rule.solve budget start initial = .ok result := by
  obtain ⟨work, log, checked, started, noted⟩ := begins.prepared
  have ran := rule.run_of_noteTableau noted budget
  rw [begins.state_eq, exhausted] at ran
  unfold solve
  simp only [checked, started, ran, read, nonzero, Halt.lift, mapError_ok,
    ok_bind, if_false]
  exact ⟨_, rfl⟩

end BeginsPhaseOne

namespace BeginsPhaseTwo

theorem solvePhaseTwo_eq_error (begins : BeginsPhaseTwo ended point)
    (stopped : rule.exhaust budget point = .error halt) :
    rule.solvePhaseTwo budget ended = .error halt := by
  obtain ⟨phaseOne, phaseTwo, changed, noted⟩ := begins.prepared
  have ran := rule.run_of_noteTableau noted budget
  rw [begins.state_eq, stopped] at ran
  unfold solvePhaseTwo
  simp [changed, ran, Halt.lift]

theorem exists_solvePhaseTwo_eq_ok (begins : BeginsPhaseTwo ended point)
    {last : Progress σ} (exhausted : rule.exhaust budget point = .ok last)
    (shaped : last.tableau.Shaped) :
    ∃ result, rule.solvePhaseTwo budget ended = .ok result := by
  obtain ⟨phaseOne, phaseTwo, changed, noted⟩ := begins.prepared
  obtain ⟨outcome, found⟩ := shaped.finalOutcome_exists_ok
  have ran := rule.run_of_noteTableau noted budget
  rw [begins.state_eq, exhausted] at ran
  unfold solvePhaseTwo
  simp only [changed, ran, found, Halt.lift, mapError_ok, ok_bind]
  exact ⟨_, rfl⟩

end BeginsPhaseTwo

/-! ## Where a run fails -/

theorem Reaches.shaped (reached : rule.Reaches initial start point)
    (isInitial : initial.IsInitial program) : point.tableau.Shaped := by
  rcases reached with one | two
  · exact (one.maintains isInitial).form.toShaped
  · obtain ⟨_, _, _, maintains⟩ := two.exists_prepared isInitial
    exact maintains.form.toShaped

theorem exists_strays_of_step_eq_error (shaped : point.tableau.Shaped)
    (refused : rule.step point = .error fault) :
    ∃ answer, rule.Strays point answer ∧
      fault = .engine (.invalidPivot answer) := by
  rcases rule.step_cases shaped with ⟨_, stopped⟩ |
    ⟨_, _, _, _, taken⟩ | ⟨answer, strays, failed⟩
  · rw [stopped] at refused
    cases refused
  · rw [taken] at refused
    cases refused
  · rw [failed] at refused
    exact ⟨answer, strays, (Except.error.inj refused).symm⟩

/-- A run that fails has reached a point where a round fails. -/
theorem exists_reaches_of_solve (isInitial : initial.IsInitial program)
    (failed : rule.solve budget start initial = .error (.fault fault)) :
    ∃ point, rule.Reaches initial start point ∧
      rule.step point = .error fault := by
  obtain ⟨first, begins⟩ := exists_beginsPhaseOne isInitial start
  cases ran : rule.exhaust budget first with
  | error halt =>
      rw [begins.solve_eq_error ran] at failed
      obtain rfl := Except.error.inj failed
      obtain ⟨last, rounds, refused⟩ := rounds_of_exhaust_eq_fault ran
      exact ⟨last, .inl ⟨first, begins, rounds⟩, refused⟩
  | ok ended =>
      obtain ⟨rounds, stopped⟩ := rounds_of_exhaust_eq_ok ran
      have reached : rule.ReachesInPhaseOne initial start ended :=
        ⟨first, begins, rounds⟩
      have value := (reached.maintains isInitial).form.value_eq_ok
      by_cases zero : ended.tableau.level ended.tableau.constraintCount = 0
      · rw [zero] at value
        rw [begins.solve_eq_solvePhaseTwo ran value] at failed
        have ready := reached.readyForPhaseTwo stopped value isInitial
        obtain ⟨second, beginsTwo⟩ := exists_beginsPhaseTwo ready value
        cases ranTwo : rule.exhaust budget second with
        | error halt =>
            rw [beginsTwo.solvePhaseTwo_eq_error ranTwo] at failed
            obtain rfl := Except.error.inj failed
            obtain ⟨last, roundsTwo, refused⟩ :=
              rounds_of_exhaust_eq_fault ranTwo
            exact ⟨last, .inr ⟨ended, second, reached, stopped, beginsTwo,
              roundsTwo⟩, refused⟩
        | ok last =>
            obtain ⟨roundsTwo, _⟩ := rounds_of_exhaust_eq_ok ranTwo
            have lastReached : rule.Reaches initial start last :=
              .inr ⟨ended, second, reached, stopped, beginsTwo, roundsTwo⟩
            obtain ⟨result, solved⟩ := beginsTwo.exists_solvePhaseTwo_eq_ok
              ranTwo (lastReached.shaped isInitial)
            rw [solved] at failed
            cases failed
      · obtain ⟨result, solved⟩ := begins.exists_solve_eq_ok ran value zero
        rw [solved] at failed
        cases failed

/-- A run whose budget reaches a point where a round fails, fails itself. -/
theorem Reaches.exists_bound (reached : rule.Reaches initial start point)
    (refused : rule.step point = .error fault) :
    ∃ bound, ∀ budget, bound ≤ budget →
      rule.solve budget start initial = .error (.fault fault) := by
  rcases reached with ⟨first, begins, rounds⟩ |
    ⟨ended, second, ⟨first, begins, rounds⟩, stopped, beginsTwo, roundsTwo⟩
  · obtain ⟨used, same⟩ := rounds.exists_used
    refine ⟨used, fun budget enough => begins.solve_eq_error ?_⟩
    obtain ⟨rest, rfl⟩ := Nat.exists_eq_add_of_le enough
    rw [same, exhaust_of_refused refused]
  · obtain ⟨used, same⟩ := rounds.exists_used
    obtain ⟨usedTwo, sameTwo⟩ := roundsTwo.exists_used
    refine ⟨max used usedTwo, fun budget enough => ?_⟩
    have ran : rule.exhaust budget first = .ok ended := by
      obtain ⟨rest, rfl⟩ :=
        Nat.exists_eq_add_of_le (le_trans (le_max_left _ _) enough)
      rw [same, exhaust_of_stopped stopped]
    rw [begins.solve_eq_solvePhaseTwo ran beginsTwo.value_eq]
    apply beginsTwo.solvePhaseTwo_eq_error
    obtain ⟨rest, rfl⟩ :=
      Nat.exists_eq_add_of_le (le_trans (le_max_right _ _) enough)
    rw [sameTwo, exhaust_of_refused refused]

end PivotRule

/-! ## Programs -/

namespace LinearProgram

variable {σ : Type}

/-- The canonical form and its tableau can always be built.  At every point that
a run reaches, the next round succeeds unless the rule answers with a pivot that
is not on offer.  A solve that fails has reached such a point, and a solve that
reaches such a point fails with the refusal of the answer. -/
theorem solve_refusals (program : LinearProgram) (rule : PivotRule σ)
    (start : σ) :
    program.canonize = .ok program.canonicalForm ∧
    ∃ initial, Tableau.ofCanonical program.canonicalForm.1 = .ok initial ∧
      (∀ point, rule.Reaches initial start point →
        (∃ next, rule.step point = .ok next) ∨
          ∃ answer, rule.Strays point answer) ∧
      (∀ budget fault, program.solve rule budget start =
          .error (.fault fault) →
        ∃ point answer, rule.Reaches initial start point ∧
          rule.Strays point answer ∧
            fault = .engine (.invalidPivot answer)) ∧
      ∀ point answer, rule.Reaches initial start point →
        rule.Strays point answer → ∃ bound, ∀ budget, bound ≤ budget →
          program.solve rule budget start =
            .error (.fault (.engine (.invalidPivot answer))) := by
  obtain ⟨initial, built, isInitial⟩ :=
    Tableau.ofCanonical_eq_ok program.isCanonical_canonicalForm
  refine ⟨program.canonize_eq_ok, initial, built, ?_, ?_, ?_⟩
  · intro point reached
    cases stepped : rule.step point with
    | ok next => exact .inl ⟨next, rfl⟩
    | error fault =>
        obtain ⟨answer, strays, _⟩ :=
          PivotRule.exists_strays_of_step_eq_error
            (reached.shaped isInitial) stepped
        exact .inr ⟨answer, strays⟩
  · intro budget fault failed
    have broken : rule.solve budget start initial = .error (.fault fault) := by
      cases ran : rule.solve budget start initial with
      | error halt =>
          rw [solve_eq_error built ran] at failed
          rw [Except.error.inj failed]
      | ok result =>
          have correct := rule.yields_solve budget start isInitial
            program.isCanonical_canonicalForm
          rw [ran] at correct
          obtain ⟨solved, run, _⟩ :=
            exists_solve_eq_ok built isInitial ran correct
          rw [run] at failed
          cases failed
    obtain ⟨point, reached, refused⟩ :=
      PivotRule.exists_reaches_of_solve isInitial broken
    obtain ⟨answer, strays, equal⟩ :=
      PivotRule.exists_strays_of_step_eq_error
        (reached.shaped isInitial) refused
    exact ⟨point, answer, reached, strays, equal⟩
  · intro point answer reached strays
    obtain ⟨bound, fails⟩ := reached.exists_bound strays.step_eq_error
    exact ⟨bound, fun budget enough =>
      solve_eq_error built (fails budget enough)⟩

/-- A rule that always names a row and a column beyond the tableau is refused at
once. -/
theorem solve_refusals_onLine :
    ∃ bound, ∀ budget, bound ≤ budget →
      (onLine 2 (-1)).solve (PivotRule.constant [7, 7]) budget () =
        .error (.fault (.engine (.invalidPivot [7, 7]))) := by
  obtain ⟨_, initial, _, _, fails, refuses⟩ :=
    solve_refusals (onLine 2 (-1)) (PivotRule.constant [7, 7]) ()
  have computed : (match
      (onLine 2 (-1)).solve (PivotRule.constant [7, 7]) 0 () with
    | .error (.fault (.engine (.invalidPivot answer))) => some answer
    | _ => none) = some [7, 7] := by
    decide +kernel
  split at computed
  · next answer failed =>
      obtain rfl := Option.some.inj computed
      obtain ⟨point, other, reached, strays, same⟩ := fails 0 _ failed
      cases same
      exact refuses point _ reached strays
  · cases computed

end LinearProgram

end RationalSimplex
