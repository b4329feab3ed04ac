import RationalSimplex.Proofs.Tableau.RatioTest
import RationalSimplex.Simplex.Phase

/-!
# Runs of a phase

A phase that ends has carried out a list of admissible pivots and stopped at a
tableau without any.  Its log is determined by the tableau at the start and
these pivots.  It does not fail unless the pivot rule answers with something
that it was not offered.
-/

namespace RationalSimplex

namespace Tableau

/-- Admissible pivots lead from one tableau to another. -/
inductive Leads : Tableau → List Pivot → Tableau → Prop where
  | refl (tableau : Tableau) : Leads tableau [] tableau
  | pivot {tableau last : Tableau} {pivot : Pivot} {pivots : List Pivot} :
      pivot ∈ tableau.candidates →
      Leads (tableau.pivoted pivot.1 pivot.2) pivots last →
      Leads tableau (pivot :: pivots) last

/-- The tableaux before, between and after pivots. -/
def visited : Tableau → List Pivot → List Tableau
  | tableau, [] => [tableau]
  | tableau, pivot :: pivots =>
      tableau :: visited (tableau.pivoted pivot.1 pivot.2) pivots

@[simp] theorem length_visited (tableau : Tableau) (pivots : List Pivot) :
    (tableau.visited pivots).length = pivots.length + 1 := by
  induction pivots generalizing tableau with
  | nil => rfl
  | cons pivot pivots induction =>
      rw [visited, List.length_cons, induction, List.length_cons]

/-- The values of the variables of the program in the basic solution. -/
def basicPlan (tableau : Tableau) : List Rat :=
  tableau.start.map (tableau.basicValue tableau.level)

variable {tableau last : Tableau} {pivots : List Pivot}

/-! ## What admissible pivots preserve -/

theorem Shaped.pivot_of_mem_candidates (shaped : tableau.Shaped)
    {pivot : Pivot} (offered : pivot ∈ tableau.candidates) :
    tableau.pivot pivot.1 pivot.2 =
      .ok (tableau.pivoted pivot.1 pivot.2) := by
  obtain ⟨rowInside, columnInside, admissible⟩ := mem_candidates_iff.mp offered
  exact shaped.pivot_eq_ok rowInside columnInside admissible.2.1.ne'

theorem Leads.shaped (leads : Leads tableau pivots last)
    (shaped : tableau.Shaped) : last.Shaped := by
  induction leads with
  | refl => exact shaped
  | pivot _ _ induction => exact induction shaped.pivoted

theorem Leads.basicForm (leads : Leads tableau pivots last)
    (form : tableau.BasicForm) : last.BasicForm := by
  induction leads with
  | refl => exact form
  | pivot offered _ induction =>
      obtain ⟨rowInside, columnInside, admissible⟩ :=
        mem_candidates_iff.mp offered
      apply induction
      exact form.pivoted rowInside columnInside admissible.2.1.ne'

theorem Leads.feasible (leads : Leads tableau pivots last)
    (feasible : tableau.Feasible) : last.Feasible := by
  induction leads with
  | refl => exact feasible
  | pivot offered _ induction =>
      obtain ⟨rowInside, _, _, positive, ratio⟩ :=
        mem_candidates_iff.mp offered
      apply induction
      exact feasible.pivoted rowInside positive ratio

theorem Leads.equivalent (leads : Leads tableau pivots last)
    (shaped : tableau.Shaped) : last.Equivalent tableau := by
  induction leads with
  | refl => exact Equivalent.refl _
  | pivot offered _ induction =>
      obtain ⟨rowInside, _, admissible⟩ := mem_candidates_iff.mp offered
      exact (induction shaped.pivoted).trans
        (shaped.equivalent_pivoted rowInside admissible.2.1.ne')

theorem Leads.shaped_of_mem_visited (leads : Leads tableau pivots last)
    (shaped : tableau.Shaped) {between : Tableau}
    (member : between ∈ tableau.visited pivots) :
    between.Shaped ∧ between.start = tableau.start := by
  induction leads with
  | refl =>
      obtain rfl : between = _ := List.mem_singleton.mp member
      exact ⟨shaped, rfl⟩
  | pivot _ _ induction =>
      rcases List.mem_cons.mp member with rfl | later
      · exact ⟨shaped, rfl⟩
      · exact induction shaped.pivoted later

end Tableau

/-! ## Logs -/

namespace PhaseLog

/-- The log with the tableau as it stands. -/
def withTableau (log : PhaseLog) (tableau : Tableau) : PhaseLog :=
  { log with
    snapshots := log.snapshots ++ [tableau.snapshot]
    plans := log.plans ++ [tableau.basicPlan] }

/-- The log of a phase that goes on from a tableau by the given pivots. -/
def recorded (log : PhaseLog) (tableau : Tableau) (pivots : List Pivot) :
    PhaseLog :=
  let tableaux := tableau.visited pivots
  { log with
    pivots := log.pivots ++ pivots
    candidates := log.candidates ++
      (tableaux.take pivots.length).map fun tableau =>
        tableau.candidates.length
    snapshots := log.snapshots ++ tableaux.map Tableau.snapshot
    plans := log.plans ++ tableaux.map Tableau.basicPlan }

@[simp] theorem noteTableau_eq_ok {tableau : Tableau} (shaped : tableau.Shaped)
    (log : PhaseLog) :
    log.noteTableau tableau = .ok (log.withTableau tableau) := by
  unfold noteTableau
  rw [shaped.plan_eq_ok]
  rfl

@[simp] theorem recorded_nil (log : PhaseLog) (tableau : Tableau) :
    log.recorded tableau [] = log.withTableau tableau := by
  simp [recorded, withTableau, Tableau.visited]

@[simp]
theorem recorded_cons (log : PhaseLog) (tableau : Tableau) (pivot : Pivot)
    (pivots : List Pivot) :
    log.recorded tableau (pivot :: pivots) =
      ((log.withTableau tableau).notePivot pivot
        tableau.candidates.length).recorded
          (tableau.pivoted pivot.1 pivot.2) pivots := by
  simp [recorded, withTableau, notePivot, Tableau.visited]

end PhaseLog

/-! ## Runs -/

namespace PivotRule

variable {σ α β : Type}

/-- What a calculation with a pivot rule may come to: a result with a property,
the end of the budget, or the refusal of an answer that was not offered, which
rules out that the rule always answers with an admissible pivot. -/
def Yields (rule : PivotRule σ) (good : α → Prop) : Except Halt α → Prop
  | .ok result => good result
  | .error .budget => True
  | .error (.fault fault) =>
      ¬rule.Respects ∧ ∃ answer, fault = .engine (.invalidPivot answer)

theorem Yields.bind {rule : PivotRule σ} {good : α → Prop}
    {better : β → Prop} {calculation : Except Halt α}
    {next : α → Except Halt β} (first : rule.Yields good calculation)
    (rest : ∀ result, good result → rule.Yields better (next result)) :
    rule.Yields better (calculation >>= next) := by
  match calculation, first with
  | .ok result, holds => exact rest result holds
  | .error .budget, _ => trivial
  | .error (.fault _), refused => exact refused

theorem Yields.mono {rule : PivotRule σ} {good better : α → Prop}
    {calculation : Except Halt α} (yields : rule.Yields good calculation)
    (implies : ∀ result, good result → better result) :
    rule.Yields better calculation := by
  match calculation, yields with
  | .ok result, holds => exact implies result holds
  | .error .budget, _ => trivial
  | .error (.fault _), refused => exact refused

theorem Yields.exists_of_respects {rule : PivotRule σ} {good : α → Prop}
    {calculation : Except Halt α} (yields : rule.Yields good calculation)
    (respects : rule.Respects) (ended : calculation ≠ .error .budget) :
    ∃ result, calculation = .ok result ∧ good result := by
  match calculation, yields with
  | .ok result, holds => exact ⟨result, rfl, holds⟩
  | .error .budget, _ => exact absurd rfl ended
  | .error (.fault _), ⟨refused, _⟩ => exact absurd respects refused

/-- A rule that picks by a place in the list respects the list. -/
theorem respects_byPlace {place : σ → Nat → Nat} {next : σ → σ}
    (inside : ∀ state count, 0 < count → place state count < count) :
    (byPlace place next).Respects := by
  intro state pivots nonempty
  have bounded := inside state pivots.length
    (List.length_pos_of_ne_nil nonempty)
  refine ⟨pivots[place state pivots.length], List.getElem_mem bounded, ?_⟩
  simp [byPlace, bounded]

theorem respects_random (generator : Generator σ) :
    (random generator).Respects := by
  intro state pivots nonempty
  have inside := generator.draw_lt state pivots.length
    (List.length_pos_of_ne_nil nonempty)
  refine ⟨_, List.getElem_mem inside, ?_⟩
  simp [random, inside]

theorem respects_first : first.Respects :=
  respects_byPlace fun _ _ positive => positive

/-- Pivots are on offer, but the rule answers with something else. -/
def Strays (rule : PivotRule σ) (progress : Progress σ) (answer : List Int) :
    Prop :=
  ∃ offered, progress.tableau.admissiblePivots = .ok offered ∧
    offered ≠ [] ∧ (rule.answer progress.state offered).1 = answer ∧
      answer ∉ offered.map pivotAnswer

theorem Strays.not_respects {rule : PivotRule σ} {progress : Progress σ}
    {answer : List Int} (strays : rule.Strays progress answer) :
    ¬rule.Respects := by
  obtain ⟨offered, _, nonempty, answered, outside⟩ := strays
  intro respects
  obtain ⟨pivot, member, same⟩ := respects progress.state offered nonempty
  rw [answered] at same
  exact outside (List.mem_map.mpr ⟨pivot, member, same.symm⟩)

/-- What is selected is what the rule answers, if that is on offer. -/
theorem select_cases (rule : PivotRule σ) (state : σ) (pivots : List Pivot) :
    (∃ pivot ∈ pivots, (rule.answer state pivots).1 = pivotAnswer pivot ∧
      rule.select state pivots = .ok (pivot, (rule.answer state pivots).2)) ∨
    (rule.answer state pivots).1 ∉ pivots.map pivotAnswer ∧
      rule.select state pivots =
        .error (.engine (.invalidPivot (rule.answer state pivots).1)) := by
  cases found : pivots.find? fun pivot =>
      pivotAnswer pivot == (rule.answer state pivots).1 with
  | some pivot =>
      left
      have answered := List.find?_some found
      refine ⟨pivot, List.mem_of_find?_eq_some found,
        (eq_of_beq answered).symm, ?_⟩
      simp only [select, found]
  | none =>
      right
      constructor
      · intro listed
        obtain ⟨pivot, member, answered⟩ := List.mem_map.mp listed
        have different := List.find?_eq_none.mp found pivot member
        simp [answered] at different
      · simp only [select, found]

variable {progress : Progress σ}

theorem Strays.step_eq_error {rule : PivotRule σ} {answer : List Int}
    (strays : rule.Strays progress answer) :
    rule.step progress = .error (.engine (.invalidPivot answer)) := by
  obtain ⟨offered, found, nonempty, answered, outside⟩ := strays
  have some : offered.isEmpty = false := by
    simpa using nonempty
  rcases rule.select_cases progress.state offered with
    ⟨pivot, member, same, _⟩ | ⟨_, refused⟩
  · rw [answered] at same
    exact absurd (List.mem_map.mpr ⟨pivot, member, same.symm⟩) outside
  · rw [answered] at refused
    unfold step
    simp only [found, some, refused, ok_bind]
    rfl

/-- A round finds no admissible pivot, carries out the one that the rule answers
with, or refuses the answer of the rule. -/
theorem step_cases (rule : PivotRule σ)
    (shaped : progress.tableau.Shaped) :
    (progress.tableau.candidates = [] ∧ rule.step progress = .ok none) ∨
      (∃ pivot ∈ progress.tableau.candidates, ∃ state,
        rule.answer progress.state progress.tableau.candidates =
            (pivotAnswer pivot, state) ∧
          rule.step progress = .ok (some {
            tableau := progress.tableau.pivoted pivot.1 pivot.2
            log := (progress.log.notePivot pivot
              progress.tableau.candidates.length).withTableau
                (progress.tableau.pivoted pivot.1 pivot.2)
            state := state })) ∨
      ∃ answer, rule.Strays progress answer ∧
        rule.step progress = .error (.engine (.invalidPivot answer)) := by
  by_cases exhausted : progress.tableau.candidates = []
  · left
    refine ⟨exhausted, ?_⟩
    unfold step
    rw [shaped.admissiblePivots_eq_ok, exhausted]
    rfl
  · right
    have nonempty : progress.tableau.candidates.isEmpty = false := by
      simpa using exhausted
    rcases rule.select_cases progress.state progress.tableau.candidates with
      ⟨pivot, offered, answered, selected⟩ | ⟨outside, _⟩
    · left
      refine ⟨pivot, offered, _, Prod.ext answered rfl, ?_⟩
      unfold step
      simp only [shaped.admissiblePivots_eq_ok, nonempty, selected,
        shaped.pivot_of_mem_candidates offered,
        PhaseLog.noteTableau_eq_ok shaped.pivoted, ok_bind, mapError_ok,
        pure_eq_ok]
      rfl
    · right
      have strays : rule.Strays progress _ :=
        ⟨_, shaped.admissiblePivots_eq_ok, exhausted, rfl, outside⟩
      exact ⟨_, strays, strays.step_eq_error⟩

/-- A phase that ends has gone from its start to a tableau without admissible
pivots, and its log says how. -/
structure Ran (start : Tableau) (log : PhaseLog) (pivots : List Pivot)
    (final : Progress σ) : Prop where
  leads : start.Leads pivots final.tableau
  exhausted : final.tableau.candidates = []
  log_eq : final.log = log.recorded start pivots

theorem yields_exhaust (rule : PivotRule σ) (budget : Nat)
    (progress : Progress σ) (shaped : progress.tableau.Shaped)
    (log : PhaseLog)
    (noted : progress.log = log.withTableau progress.tableau) :
    rule.Yields (fun final => ∃ pivots, Ran progress.tableau log pivots final)
      (rule.exhaust budget progress) := by
  induction budget using Nat.strong_induction_on
    generalizing progress log with
  | _ budget induction =>
      unfold exhaust
      rcases rule.step_cases shaped with ⟨exhausted, stepped⟩ |
        ⟨pivot, offered, state, _, stepped⟩ | ⟨answer, strays, refused⟩
      · rw [stepped]
        refine ⟨[], .refl _, exhausted, ?_⟩
        rw [noted, PhaseLog.recorded_nil]
      · rw [stepped]
        cases budget with
        | zero => trivial
        | succ budget =>
            have logged : (progress.log.notePivot pivot
                progress.tableau.candidates.length).withTableau
                  (progress.tableau.pivoted pivot.1 pivot.2) =
                ((log.withTableau progress.tableau).notePivot pivot
                  progress.tableau.candidates.length).withTableau
                    (progress.tableau.pivoted pivot.1 pivot.2) := by
              rw [noted]
            have rest := induction budget (Nat.lt_succ_self budget)
              ⟨progress.tableau.pivoted pivot.1 pivot.2, _, state⟩
              shaped.pivoted _ logged
            apply rest.mono
            rintro final ⟨pivots, ran⟩
            refine ⟨pivot :: pivots, .pivot offered ran.leads,
              ran.exhausted, ?_⟩
            rw [ran.log_eq, PhaseLog.recorded_cons]
      · rw [refused]
        exact ⟨strays.not_respects, answer, rfl⟩

/-- A phase that starts from a shaped tableau ends without admissible pivots,
unless its budget runs out or an answer of the rule is refused. -/
theorem yields_run (rule : PivotRule σ) (budget : Nat)
    (shaped : progress.tableau.Shaped) :
    rule.Yields
      (fun final => ∃ pivots, Ran progress.tableau progress.log pivots final)
      (rule.run budget progress) := by
  unfold run
  rw [PhaseLog.noteTableau_eq_ok shaped]
  exact rule.yields_exhaust budget
    { progress with log := progress.log.withTableau progress.tableau }
    shaped progress.log rfl

end PivotRule

end RationalSimplex
