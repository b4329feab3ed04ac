import RationalSimplex.Proofs.Configuration.Parts
import RationalSimplex.Proofs.Numeral.Value
import RationalSimplex.Proofs.Program.Entry

/-!
# Loading configurations

A configuration is loaded exactly where its value describes one.  The checks
that are made when the program is built from its parts find nothing, because
the parts that are loaded already fit together, and every fault is that of an
invalid value.
-/

namespace RationalSimplex

namespace Configuration

/-! ## What is described -/

/-- The objective of a section. -/
def DescribesObjective (entries : Entries) (objective : Objective) : Prop :=
  ∃ inner, HasSection entries "objective" inner ∧
    IsSense (keyword inner "sense" "max") objective.maximize ∧
    ListsNumbers (Value.lookup? inner "coefficients")
      objective.expression.coefficients

/-- The parts of a program.  All variables are nonnegative and none is an
integer unless others are named. -/
structure DescribesParts (entries : Entries) (objective : Objective)
    (constraints : List Constraint) (nonnegative integers : IndexSet) :
    Prop where
  describes : DescribesObjective entries objective
  lists : ListsConstraints objective.expression.width entries constraints
  signs : NamesVariables objective.expression.width
    ((Value.lookup? entries "nonnegative").getD (.text "all")) nonnegative
  marks : NamesVariables objective.expression.width
    ((Value.lookup? entries "integer").getD .null) integers

/-- The program that the entries describe. -/
structure DescribesProgram (entries : Entries) (program : LinearProgram) :
    Prop where
  parts : DescribesParts entries program.objective program.constraints
    program.polytope.nonnegative program.integers
  unmarked : program.artificial = []

/-- The configuration that a value describes. -/
def Describes (path : String) (raw : Value) (configuration : Configuration) :
    Prop :=
  ∃ entries solver run, raw = .mapping entries ∧
    HasSection entries "solver" solver ∧
    IsSolver solver configuration.solver ∧
    HasSection entries "run" run ∧ configuration.run = loadRun run ∧
    DescribesProgram entries configuration.program ∧
    configuration.folder = folderOf path

/-- The value has all that a configuration needs. -/
def IsAccepted (raw : Value) : Prop :=
  ∃ entries, raw = .mapping entries ∧
    (∃ solver settings, HasSection entries "solver" solver ∧
      IsSolver solver settings) ∧
    (∃ run, HasSection entries "run" run) ∧
    ∃ objective constraints nonnegative integers,
      DescribesParts entries objective constraints nonnegative integers

/-! ## What is loaded -/

section Loading

variable {entries : Entries} {objective : Objective}
  {constraints : List Constraint} {nonnegative integers chosen : IndexSet}
  {program : LinearProgram} {width : Nat} {value : Value}

theorem AreVariables.lt_width {items : List Value}
    (are : AreVariables width items chosen) :
    ∀ index ∈ chosen, index < width := by
  obtain ⟨indices, named, mem_iff⟩ := are
  intro index member
  obtain ⟨item, isVariable⟩ :=
    exists_of_mem_right named ((mem_iff index).mp member)
  exact isVariable.1

theorem NamesVariables.lt_width (names : NamesVariables width value chosen) :
    ∀ index ∈ chosen, index < width := by
  cases names with
  | null => exact fun _ member => absurd member IndexSet.not_mem_empty
  | integer are => exact are.lt_width
  | text _ names =>
      cases names with
      | all => exact fun _ member => IndexSet.mem_below.mp member
      | words _ _ are => exact are.lt_width
  | list _ are => exact are.lt_width

theorem ListsConstraints.width_eq
    (lists : ListsConstraints width entries constraints) :
    ∀ constraint ∈ constraints, constraint.width = width := by
  obtain ⟨items, _, _, described⟩ := lists
  intro constraint member
  obtain ⟨item, inner, _, isConstraint⟩ := exists_of_mem_right described member
  exact isConstraint.width

theorem ListsConstraints.ne_nil
    (lists : ListsConstraints width entries constraints) :
    constraints ≠ [] := by
  obtain ⟨items, _, nonempty, described⟩ := lists
  rintro rfl
  exact nonempty (List.forall₂_nil_right_iff.mp described)

/-- Parts that are described are those of a program. -/
theorem DescribesParts.exists_program
    (parts :
      DescribesParts entries objective constraints nonnegative integers) :
    ∃ program, DescribesProgram entries program ∧
      program.objective = objective ∧ program.constraints = constraints ∧
      program.polytope.nonnegative = nonnegative ∧
      program.integers = integers := by
  obtain ⟨program, rfl, rfl, rfl, rfl, unmarked⟩ :=
    LinearProgram.exists_of_parts parts.lists.ne_nil parts.lists.width_eq
      parts.signs.lt_width parts.marks.lt_width
  exact ⟨program, ⟨parts, unmarked⟩, rfl, rfl, rfl, rfl⟩

theorem loadProgram_eq_ok_iff :
    loadProgram entries = .ok program ↔ DescribesProgram entries program := by
  constructor
  · intro loaded
    unfold loadProgram at loaded
    simp only [bind_eq_ok_iff, mapError_eq_ok_iff, loadSection_eq_ok_iff,
      loadSense_eq_ok_iff, loadCoefficients_eq_ok_iff,
      constraintItems_eq_ok_iff, loadConstraints_eq_ok_iff,
      loadVariables_eq_ok_iff] at loaded
    obtain ⟨inner, hasSection, maximize, isSense, coefficients, ⟨lists, _⟩,
      items, ⟨found, nonempty⟩, constraints, described, nonnegative, signs,
      integers, marks, made⟩ := loaded
    have parts : DescribesParts entries ⟨⟨coefficients⟩, maximize⟩ constraints
        nonnegative integers :=
      ⟨⟨inner, hasSection, isSense, lists⟩,
        ⟨items, found, nonempty, described⟩, signs, marks⟩
    obtain ⟨expected, describes, sameObjective, sameConstraints, sameSigns,
      sameMarks⟩ := parts.exists_program
    have same := expected.ofParts_eq_ok describes.unmarked
    rw [sameObjective, sameConstraints, sameSigns, sameMarks] at same
    obtain rfl := Except.ok.inj (made.symm.trans same)
    exact describes
  · rintro ⟨⟨⟨inner, hasSection, isSense, lists⟩,
      ⟨items, found, nonempty, described⟩, signs, marks⟩, unmarked⟩
    unfold loadProgram
    simp only [bind_eq_ok_iff, mapError_eq_ok_iff, loadSection_eq_ok_iff,
      loadSense_eq_ok_iff, loadCoefficients_eq_ok_iff,
      constraintItems_eq_ok_iff, loadConstraints_eq_ok_iff,
      loadVariables_eq_ok_iff]
    exact ⟨inner, hasSection, _, isSense, _, ⟨lists, by simp⟩,
      items, ⟨found, nonempty⟩, _, described, _, signs,
      _, marks, program.ofParts_eq_ok unmarked⟩

theorem load_eq_ok_iff {path : String} {raw : Value}
    {configuration : Configuration} :
    load path raw = .ok configuration ↔ Describes path raw configuration := by
  constructor
  · intro loaded
    cases raw with
    | mapping entries =>
        simp only [load, bind_eq_ok_iff, mapError_eq_ok_iff,
          loadSection_eq_ok_iff, loadSolver_eq_ok_iff,
          loadProgram_eq_ok_iff] at loaded
        obtain ⟨solver, hasSolver, run, hasRun, settings, isSolver, program,
          describes, same⟩ := loaded
        obtain rfl := Except.ok.inj same
        exact ⟨entries, solver, run, rfl, hasSolver, isSolver, hasRun, rfl,
          describes, rfl⟩
    | _ => cases loaded
  · rintro ⟨entries, solver, run, rfl, hasSolver, isSolver, hasRun, sameRun,
      describes, sameFolder⟩
    simp only [load, bind_eq_ok_iff, mapError_eq_ok_iff,
      loadSection_eq_ok_iff, loadSolver_eq_ok_iff, loadProgram_eq_ok_iff]
    refine ⟨solver, hasSolver, run, hasRun, _, isSolver, _, describes, ?_⟩
    rw [← sameRun, ← sameFolder]
    rfl

theorem exists_describes_iff {path : String} {raw : Value} :
    (∃ configuration, Describes path raw configuration) ↔ IsAccepted raw := by
  constructor
  · rintro ⟨configuration, entries, solver, run, same, hasSolver, isSolver,
      hasRun, _, describes, _⟩
    exact ⟨entries, same, ⟨solver, _, hasSolver, isSolver⟩, ⟨run, hasRun⟩,
      _, _, _, _, describes.parts⟩
  · rintro ⟨entries, same, ⟨solver, settings, hasSolver, isSolver⟩,
      ⟨run, hasRun⟩, objective, constraints, nonnegative, integers, parts⟩
    obtain ⟨program, describes, _⟩ := parts.exists_program
    exact ⟨⟨program, settings, loadRun run, folderOf path⟩, entries, solver,
      run, same, hasSolver, isSolver, hasRun, rfl, describes, rfl⟩

end Loading

/-! ## Faults -/

section Faults

variable {α β : Type}

/-- Whatever goes wrong is that of an invalid value. -/
def FailsInvalid (calculation : Except Fault α) : Prop :=
  ∀ fault, calculation = .error fault → fault.kind = .invalidValue

theorem failsInvalid_ok (value : α) : FailsInvalid (.ok value) := by
  intro fault failed
  cases failed

theorem failsInvalid_error {fault : Fault}
    (invalid : fault.kind = .invalidValue) :
    FailsInvalid (.error fault : Except Fault α) := by
  intro _ failed
  cases failed
  exact invalid

theorem failsInvalid_mapError {ε : Type} {calculation : Except ε α}
    {translate : ε → Fault}
    (invalid : ∀ fault, calculation = .error fault →
      (translate fault).kind = .invalidValue) :
    FailsInvalid (calculation.mapError translate) := by
  cases calculation with
  | ok value => exact failsInvalid_ok value
  | error fault => exact failsInvalid_error (invalid fault rfl)

theorem failsInvalid_setting (calculation : Except SettingFault α) :
    FailsInvalid (calculation.mapError .setting) :=
  failsInvalid_mapError fun _ _ => rfl

theorem FailsInvalid.bind {calculation : Except Fault α}
    {next : α → Except Fault β} (first : FailsInvalid calculation)
    (rest : ∀ value, FailsInvalid (next value)) :
    FailsInvalid (calculation >>= next) := by
  cases calculation with
  | ok value => exact rest value
  | error fault => exact failsInvalid_error (first fault rfl)

theorem failsInvalid_read (source : Value) :
    FailsInvalid (Relation.read source) := by
  unfold Relation.read
  split
  · exact failsInvalid_ok _
  · exact failsInvalid_error rfl

theorem failsInvalid_loadRelation (entries : Entries) :
    FailsInvalid (loadRelation entries) := by
  unfold loadRelation
  split
  · exact failsInvalid_ok _
  · exact failsInvalid_read _

/-- A value that is no number is a fault of the configuration, and a value has
no other fault. -/
theorem failsInvalid_loadCoefficient (place : String) (value : Value) :
    FailsInvalid (loadCoefficient place value) := by
  apply failsInvalid_mapError
  intro fault failed
  rw [coefficientFault, if_pos (Value.toRat_kind failed)]
  rfl

theorem failsInvalid_loadNumbered (place : String) (number : Nat)
    (values : List Value) :
    FailsInvalid (loadNumbered place number values) := by
  induction values generalizing number with
  | nil => exact failsInvalid_ok []
  | cons value values induction =>
      apply (failsInvalid_loadCoefficient _ value).bind
      intro coefficient
      apply (induction (number + 1)).bind
      exact fun coefficients => failsInvalid_ok _

theorem failsInvalid_loadCoefficients (place : String) (expected : Option Nat)
    (value : Option Value) :
    FailsInvalid (loadCoefficients place expected value) := by
  unfold loadCoefficients
  split
  · exact failsInvalid_error rfl
  · exact failsInvalid_error rfl
  · split
    · split
      · exact failsInvalid_loadNumbered _ _ _
      · exact failsInvalid_error rfl
    · exact failsInvalid_loadNumbered _ _ _

theorem failsInvalid_loadConstraint (width number : Nat) (item : Value) :
    FailsInvalid (loadConstraint width number item) := by
  unfold loadConstraint
  split
  · next inner =>
      apply (failsInvalid_loadCoefficients _ _ _).bind
      intro coefficients
      apply (failsInvalid_loadRelation inner).bind
      intro relation
      split
      · exact failsInvalid_error rfl
      · apply (failsInvalid_loadCoefficient _ _).bind
        exact fun constant => failsInvalid_ok _
  · exact failsInvalid_error rfl

theorem failsInvalid_loadConstraints (width number : Nat) (items : List Value) :
    FailsInvalid (loadConstraints width number items) := by
  induction items generalizing number with
  | nil => exact failsInvalid_ok []
  | cons item items induction =>
      apply (failsInvalid_loadConstraint width number item).bind
      intro constraint
      apply (induction (number + 1)).bind
      exact fun constraints => failsInvalid_ok _

theorem failsInvalid_loadProgram (entries : Entries) :
    FailsInvalid (loadProgram entries) := by
  unfold loadProgram
  apply (failsInvalid_setting _).bind
  intro objective
  apply (failsInvalid_setting _).bind
  intro maximize
  apply (failsInvalid_loadCoefficients _ _ _).bind
  intro coefficients
  apply (failsInvalid_setting _).bind
  intro items
  apply (failsInvalid_loadConstraints _ _ _).bind
  intro constraints
  apply (failsInvalid_setting _).bind
  intro nonnegative
  apply (failsInvalid_setting _).bind
  intro integers
  apply failsInvalid_mapError
  intro fault failed
  rw [programFault, if_pos (LinearProgram.ofParts_kind failed)]
  rfl

theorem failsInvalid_load (path : String) (raw : Value) :
    FailsInvalid (load path raw) := by
  unfold load
  split
  · next entries =>
      apply (failsInvalid_setting _).bind
      intro solver
      apply (failsInvalid_setting _).bind
      intro run
      apply (failsInvalid_setting _).bind
      intro settings
      apply (failsInvalid_loadProgram entries).bind
      exact fun program => failsInvalid_ok _
  · exact failsInvalid_error rfl

end Faults

/-- A value that is accepted is loaded as the configuration that it describes,
and any other value has the fault of an invalid value. -/
theorem load_exact (path : String) (raw : Value) :
    (∀ configuration, load path raw = .ok configuration ↔
        Describes path raw configuration) ∧
      ((∃ configuration, load path raw = .ok configuration) ↔
        IsAccepted raw) ∧
      ∀ fault, load path raw = .error fault → fault.kind = .invalidValue := by
  refine ⟨fun _ => load_eq_ok_iff, ?_, failsInvalid_load path raw⟩
  simp only [load_eq_ok_iff]
  exact exists_describes_iff

/-- Two variables by number, a constant as text, and everything else left
out. -/
example : (load "dir/file.yml" (.mapping [
    ("objective", .mapping [("coefficients", .list [.integer 3, .integer 1])]),
    ("constraints", .list [.mapping [
      ("coefficients", .list [.integer 1, .integer 1]),
      ("rhs", .text "2.5")]]),
    ("integer", .text "2, 1")])).toOption.map (fun configuration =>
      (configuration.program.constraints,
        configuration.program.integers.toList, configuration.folder)) =
    some ([⟨⟨[1, 1]⟩, .le, 5 / 2⟩], [0, 1], "dir") := by
  decide +kernel

end Configuration

end RationalSimplex
