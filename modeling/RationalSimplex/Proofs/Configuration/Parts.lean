import RationalSimplex.Proofs.Configuration.Variables

/-!
# The parts of a configuration

The relations below say what a section, a list of numbers, a constraint and the
settings look like, without saying how they are loaded or what is reported
about other values.  Every loader succeeds at exactly the values of its
relation.
-/

namespace RationalSimplex.Configuration

/-! ## What is described -/

/-- The entries of a section: those of a mapping, and none where the section is
absent or counts as absent. -/
inductive HasSection (entries : Entries) (key : String) : Entries → Prop where
  | absent :
      Value.lookup? entries key = none → HasSection entries key []
  | falsy {value : Value} :
      Value.lookup? entries key = some value → ¬value.isTruthy →
      HasSection entries key []
  | mapping {inner : Entries} :
      Value.lookup? entries key = some (.mapping inner) →
      HasSection entries key inner

/-- A nonempty list of values that read as numbers. -/
def ListsNumbers (value : Option Value) (numbers : List Rat) : Prop :=
  ∃ items, value.bind listItems? = some items ∧ items ≠ [] ∧
    List.Forall₂ (fun item number => item.toRat = .ok number) items numbers

/-- The word of an entry, without blanks around it and capitals. -/
def keyword (entries : Entries) (key default : String) : String :=
  Text.lowerCase (Text.trim (loadText entries key default))

/-- A constraint in a number of variables, an upper bound unless another
relation is given. -/
structure IsConstraint (width : Nat) (entries : Entries)
    (constraint : Constraint) : Prop where
  coefficients : ListsNumbers (Value.lookup? entries "coefficients")
    constraint.expression.coefficients
  width : constraint.width = width
  relation :
    (keyword entries "relation" "<=", constraint.relation) ∈ Relation.spellings
  constant : ∃ value, Value.lookup? entries "rhs" = some value ∧
    value.toRat = .ok constraint.constant

/-- A nonempty list of constraints. -/
def ListsConstraints (width : Nat) (entries : Entries)
    (constraints : List Constraint) : Prop :=
  ∃ items, Value.lookup? entries "constraints" = some (.list items) ∧
    items ≠ [] ∧
    List.Forall₂ (fun item constraint => ∃ inner, item = .mapping inner ∧
      IsConstraint width inner constraint) items constraints

/-- The two senses of an objective; `true` is a maximum. -/
def IsSense (word : String) (maximize : Bool) : Prop :=
  word = "max" ∧ maximize = true ∨ word = "min" ∧ maximize = false

/-- Where a random rule starts, if that is given. -/
inductive HasSeed (entries : Entries) : Option Int → Prop where
  | absent : Value.lookup? entries "seed" = none → HasSeed entries none
  | null : Value.lookup? entries "seed" = some .null → HasSeed entries none
  | integer {seed : Int} :
      Value.lookup? entries "seed" = some (.integer seed) →
      HasSeed entries (some seed)

/-- The settings of a solver section. -/
structure IsSolver (entries : Entries) (settings : SolverSettings) : Prop where
  rule : settings.rule = loadText entries "pivot_rule" "random"
  known : settings.rule = "random" ∨ settings.rule = "first"
  seed : HasSeed entries settings.seed

/-! ## What is loaded -/

section Loading

variable {entries inner : Entries} {key place : String} {value : Option Value}
  {number width : Nat} {items : List Value} {item : Value}
  {numbers : List Rat} {constraint : Constraint}
  {constraints : List Constraint}

theorem loadSection_eq_ok_iff :
    loadSection entries key = .ok inner ↔ HasSection entries key inner := by
  unfold loadSection
  cases found : Value.lookup? entries key with
  | none =>
      constructor
      · intro loaded
        cases loaded
        exact .absent found
      · intro hasSection
        cases hasSection with
        | absent => rfl
        | falsy present => simp [found] at present
        | mapping present => simp [found] at present
  | some value =>
      by_cases truthy : value.isTruthy
      · simp only [truthy, if_true]
        constructor
        · intro loaded
          cases value with
          | mapping entries =>
              cases loaded
              exact .mapping found
          | _ => cases loaded
        · intro hasSection
          cases hasSection with
          | absent missing => simp [found] at missing
          | falsy present falsy =>
              cases found.symm.trans present
              exact absurd truthy falsy
          | mapping present =>
              cases found.symm.trans present
              rfl
      · simp only [if_neg truthy]
        constructor
        · intro loaded
          cases loaded
          exact .falsy found truthy
        · intro hasSection
          cases hasSection with
          | absent => rfl
          | falsy => rfl
          | mapping present =>
              cases found.symm.trans present
              cases inner with
              | nil => rfl
              | cons entry inner => exact absurd rfl truthy

theorem loadNumbered_eq_ok_iff :
    loadNumbered place number items = .ok numbers ↔
      List.Forall₂ (fun item number => item.toRat = .ok number)
        items numbers := by
  induction items generalizing number numbers with
  | nil => exact ok_nil_iff
  | cons item items induction => exact ok_cons_iff mapError_eq_ok_iff induction

theorem ListsNumbers.iff_of_items
    (listed : value.bind listItems? = some items) :
    ListsNumbers value numbers ↔ items ≠ [] ∧
      List.Forall₂ (fun item number => item.toRat = .ok number)
        items numbers := by
  simp [ListsNumbers, listed]

/-- The numbers are as many as the coefficients, which may have to be a given
number. -/
theorem loadCoefficients_eq_ok_iff {expected : Option Nat} :
    loadCoefficients place expected value = .ok numbers ↔
      ListsNumbers value numbers ∧
        ∀ width ∈ expected, numbers.length = width := by
  unfold loadCoefficients
  cases listed : value.bind listItems? with
  | none =>
      constructor
      · intro loaded
        cases loaded
      · rintro ⟨⟨items, found, _⟩, _⟩
        rw [listed] at found
        cases found
  | some items =>
      rw [ListsNumbers.iff_of_items listed]
      cases items with
      | nil => simp
      | cons first rest =>
          cases expected with
          | none => simp [loadNumbered_eq_ok_iff]
          | some width =>
              by_cases fits : (first :: rest).length = width
              · simp only [if_pos fits, loadNumbered_eq_ok_iff]
                constructor
                · intro reads
                  refine ⟨⟨List.cons_ne_nil _ _, reads⟩, ?_⟩
                  intro other member
                  obtain rfl := Option.some.inj member
                  rw [← reads.length_eq, fits]
                · exact fun described => described.1.2
              · simp only [if_neg fits]
                constructor
                · intro loaded
                  cases loaded
                · rintro ⟨⟨_, reads⟩, counted⟩
                  rw [← reads.length_eq] at counted
                  exact absurd (counted width rfl) fits

theorem ofSpelling?_of_mem_spellings :
    ∀ written ∈ Relation.spellings,
      Relation.ofSpelling? written.1 = some written.2 := by
  decide

theorem ofSpelling?_eq_some_iff {spelling : String} {relation : Relation} :
    Relation.ofSpelling? spelling = some relation ↔
      (spelling, relation) ∈ Relation.spellings := by
  constructor
  · intro found
    obtain ⟨before, after, same, _⟩ := List.lookup_eq_some_iff.mp found
    rw [same]
    simp
  · exact ofSpelling?_of_mem_spellings (spelling, relation)

theorem read_eq_ok_iff {source : Value} {relation : Relation} :
    Relation.read source = .ok relation ↔
      (Text.lowerCase (Text.trim source.plainText), relation) ∈
        Relation.spellings := by
  unfold Relation.read
  rw [← ofSpelling?_eq_some_iff]
  cases Relation.ofSpelling? _ with
  | none => simp
  | some found => simp

theorem keyword_of_absent {default : String}
    (absent : Value.lookup? entries key = none) :
    keyword entries key default = Text.lowerCase (Text.trim default) := by
  rw [keyword, loadText, absent]
  rfl

theorem keyword_of_present {default : String} {found : Value}
    (present : Value.lookup? entries key = some found) :
    keyword entries key default =
      Text.lowerCase (Text.trim found.plainText) := by
  rw [keyword, loadText, present]
  rfl

theorem loadRelation_eq_ok_iff {relation : Relation} :
    loadRelation entries = .ok relation ↔
      (keyword entries "relation" "<=", relation) ∈ Relation.spellings := by
  unfold loadRelation
  cases found : Value.lookup? entries "relation" with
  | none =>
      have default : Text.lowerCase (Text.trim "<=") = "<=" := by
        decide +kernel
      rw [keyword_of_absent found, default, ← ofSpelling?_eq_some_iff]
      simp [ofSpelling?_of_mem_spellings ("<=", .le) (by decide)]
  | some value =>
      rw [keyword_of_present found]
      exact read_eq_ok_iff

theorem loadConstraint_eq_ok_iff :
    loadConstraint width number item = .ok constraint ↔
      ∃ inner, item = .mapping inner ∧ IsConstraint width inner constraint := by
  constructor
  · intro loaded
    cases item with
    | mapping inner =>
        obtain ⟨coefficients, counted, loaded⟩ := bind_eq_ok_iff.mp loaded
        obtain ⟨relation, related, loaded⟩ := bind_eq_ok_iff.mp loaded
        rw [loadCoefficients_eq_ok_iff] at counted
        rw [loadRelation_eq_ok_iff] at related
        cases found : Value.lookup? inner "rhs" with
        | none =>
            simp only [found] at loaded
            cases loaded
        | some value =>
            simp only [found] at loaded
            obtain ⟨constant, read, same⟩ := bind_eq_ok_iff.mp loaded
            rw [loadCoefficient, mapError_eq_ok_iff] at read
            obtain rfl := Except.ok.inj same
            exact ⟨inner, rfl, counted.1, counted.2 width rfl, related,
              value, found, read⟩
    | _ => cases loaded
  · rintro ⟨inner, rfl, described⟩
    obtain ⟨value, found, read⟩ := described.constant
    have counted : ∀ place, loadCoefficients place (some width)
        (Value.lookup? inner "coefficients") =
          .ok constraint.expression.coefficients := by
      intro place
      refine loadCoefficients_eq_ok_iff.mpr ⟨described.coefficients, ?_⟩
      intro other member
      obtain rfl := Option.some.inj member
      exact described.width
    have related := loadRelation_eq_ok_iff.mpr described.relation
    simp only [loadConstraint, counted, mapError_ok, related, found,
      loadCoefficient, read]
    rfl

theorem loadConstraints_eq_ok_iff :
    loadConstraints width number items = .ok constraints ↔
      List.Forall₂ (fun item constraint => ∃ inner, item = .mapping inner ∧
        IsConstraint width inner constraint) items constraints := by
  induction items generalizing number constraints with
  | nil => exact ok_nil_iff
  | cons item items induction =>
      exact ok_cons_iff loadConstraint_eq_ok_iff induction

theorem constraintItems_eq_ok_iff :
    constraintItems entries = .ok items ↔
      Value.lookup? entries "constraints" = some (.list items) ∧
        items ≠ [] := by
  unfold constraintItems
  cases found : Value.lookup? entries "constraints" with
  | none => simp
  | some value =>
      by_cases truthy : value.isTruthy
      · simp only [if_pos truthy]
        cases value with
        | list others =>
            have nonempty : others ≠ [] := by
              simpa [Value.isTruthy] using truthy
            constructor
            · intro loaded
              cases loaded
              exact ⟨rfl, nonempty⟩
            · rintro ⟨same, _⟩
              cases same
              rfl
        | _ => simp
      · simp only [if_neg truthy]
        constructor
        · intro loaded
          cases loaded
        · rintro ⟨same, nonempty⟩
          cases same
          exact absurd (by simpa [Value.isTruthy] using nonempty) truthy

theorem loadSense_eq_ok_iff {maximize : Bool} :
    loadSense entries = .ok maximize ↔
      IsSense (keyword entries "sense" "max") maximize := by
  unfold loadSense IsSense keyword
  generalize Text.lowerCase (Text.trim (loadText entries "sense" "max")) = word
  by_cases isMax : word = "max"
  · simp [isMax, eq_comm]
  · by_cases isMin : word = "min"
    · simp [isMin, eq_comm]
    · simp [isMax, isMin]

theorem loadSolver_eq_ok_iff {settings : SolverSettings} :
    loadSolver entries = .ok settings ↔ IsSolver entries settings := by
  unfold loadSolver
  constructor
  · intro loaded
    simp only at loaded
    split at loaded
    · next known =>
        split at loaded
        · next absent =>
            cases loaded
            exact ⟨rfl, known, .absent absent⟩
        · next null =>
            cases loaded
            exact ⟨rfl, known, .null null⟩
        · next seed present =>
            cases loaded
            exact ⟨rfl, known, .integer present⟩
        · cases loaded
    · cases loaded
  · rintro ⟨sameRule, known, hasSeed⟩
    obtain ⟨rule, seed⟩ := settings
    simp only at sameRule known hasSeed
    simp only [← sameRule, if_pos known]
    cases hasSeed with
    | absent absent => simp only [absent]
    | null null => simp only [null]
    | integer present => simp only [present]

end Loading

end RationalSimplex.Configuration
