import RationalSimplex.Fault.Basic
import RationalSimplex.Fault.Message
import RationalSimplex.Program.Solved

/-!
# Configurations

A configuration is a mapping with the sections `objective`, `solver` and `run`
and the entries `constraints`, `nonnegative` and `integer`.  Every fault of it
is found here, before anything is solved, and names the place where it was
found.
-/

namespace RationalSimplex

/-! ## Settings -/

/-- Which pivot rule is wanted, by name, and where a random one starts. -/
structure SolverSettings where
  rule : String
  seed : Option Int
deriving DecidableEq

/-- What is written besides the summary of a solve. -/
structure RunSettings where
  logging : Bool
  plots : Bool
  check : Bool
deriving DecidableEq

/-- The pivot rules that a name can stand for. -/
inductive RuleChoice where
  | first
  | random (seed : Option Int)
deriving DecidableEq

/-- The start of a random rule, which is not below zero; nothing starts it
anywhere. -/
def Value.toSeed : Value → Except Fault (Option Int)
  | .null => .ok none
  | .boolean truth => .ok (some (if truth then 1 else 0))
  | .integer seed =>
      if seed < 0 then .error (.setting .negativeSeed) else .ok (some seed)
  | other => .error (.operand (.notSeed other))

/-- The pivot rule of a name. -/
def RuleChoice.named (rule : String) (seed : Value) : Except Fault RuleChoice :=
  if rule = "first" then
    .ok .first
  else if rule = "random" then
    seed.toSeed.map .random
  else
    .error (.setting (.pivotRule rule))

/-- The pivot rule that is wanted. -/
def SolverSettings.choice (settings : SolverSettings) :
    Except Fault RuleChoice :=
  RuleChoice.named settings.rule ((settings.seed.map .integer).getD .null)

/-- Solve a program by the chosen rule. -/
def LinearProgram.solveBy {σ : Type} (program : LinearProgram)
    (generator : Generator σ) (choice : RuleChoice) (budget : Nat) :
    Except Halt SolvedProgram :=
  match choice with
  | .first => (program.solve PivotRule.first budget ()).map (·.1)
  | .random seed =>
      (program.solve (PivotRule.random generator) budget
        (generator.start seed)).map (·.1)

/-! ## Loading -/

/-- A program with the settings for its solve. -/
structure Configuration where
  program : LinearProgram
  solver : SolverSettings
  run : RunSettings
  /-- The folder of the configuration file. -/
  folder : String
deriving DecidableEq

namespace Configuration

/-- The entries of a mapping. -/
abbrev Entries := List (String × Value)

/-- The entries of a section; one that is absent, or empty in any way, has
none. -/
def loadSection (entries : Entries) (key : String) :
    Except SettingFault Entries :=
  match Value.lookup? entries key with
  | none => .ok []
  | some value =>
      if value.isTruthy then
        match value with
        | .mapping inner => .ok inner
        | other => .error (.sectionKind key other.kind)
      else
        .ok []

/-- Whether an entry is switched on. -/
def loadSwitch (entries : Entries) (key : String) (default : Bool) : Bool :=
  ((Value.lookup? entries key).map Value.isTruthy).getD default

/-- The plain text of an entry. -/
def loadText (entries : Entries) (key default : String) : String :=
  ((Value.lookup? entries key).map Value.plainText).getD default

/-- What becomes of the fault of a coefficient: only values that are no numbers
are faults of the configuration. -/
def coefficientFault (place : String) (value : Value) (fault : NumberFault) :
    Fault :=
  if fault.kind = .unreadableNumber ∨ fault.kind = .malformedArgument then
    .setting (.coefficient place value fault)
  else
    .number fault

/-- The exact number of a coefficient. -/
def loadCoefficient (place : String) (value : Value) : Except Fault Rat :=
  value.toRat.mapError (coefficientFault place value)

/-- The items of a list. -/
def listItems? : Value → Option (List Value)
  | .list items | .tuple items => some items
  | _ => none

/-- The exact numbers of the coefficients in order, with their places counted
from `number`. -/
def loadNumbered (place : String) :
    Nat → List Value → Except Fault (List Rat)
  | _, [] => .ok []
  | number, value :: values => do
      let coefficient ←
        loadCoefficient (place ++ "[" ++ toString number ++ "]") value
      let coefficients ← loadNumbered place (number + 1) values
      return coefficient :: coefficients

/-- The coefficients of an entry, which has to be a nonempty list and may have
to have a given length. -/
def loadCoefficients (place : String) (expected : Option Nat)
    (value : Option Value) : Except Fault (List Rat) :=
  match value.bind listItems? with
  | none | some [] => .error (.setting (.noCoefficients place))
  | some items =>
      match expected with
      | some width =>
          if items.length = width then loadNumbered place 1 items
          else .error (.setting (.coefficientCount place items.length width))
      | none => loadNumbered place 1 items

/-- The relation of a constraint, an upper bound unless another is given. -/
def loadRelation (entries : Entries) : Except Fault Relation :=
  match Value.lookup? entries "relation" with
  | none => .ok .le
  | some value => Relation.read value

/-- The constraint with a given number. -/
def loadConstraint (width number : Nat) (item : Value) :
    Except Fault Constraint :=
  match item with
  | .mapping entries => do
      let place := "constraint " ++ toString number
      let coefficients ← loadCoefficients place (some width)
        (Value.lookup? entries "coefficients")
      let relation ← loadRelation entries
      match Value.lookup? entries "rhs" with
      | none => throw (.setting (.noConstant number))
      | some value =>
          let constant ← loadCoefficient ("constant of " ++ place) value
          return ⟨⟨coefficients⟩, relation, constant⟩
  | _ => .error (.setting (.constraintKind number))

/-- The constraints in order, with their numbers counted from `number`. -/
def loadConstraints (width : Nat) :
    Nat → List Value → Except Fault (List Constraint)
  | _, [] => .ok []
  | number, item :: items => do
      let constraint ← loadConstraint width number item
      let constraints ← loadConstraints width (number + 1) items
      return constraint :: constraints

/-- The items of the list of constraints, of which there has to be one. -/
def constraintItems (entries : Entries) : Except SettingFault (List Value) :=
  match Value.lookup? entries "constraints" with
  | none => .error .noConstraints
  | some value =>
      if value.isTruthy then
        match value with
        | .list items => .ok items
        | other => .error (.constraintsKind other.kind)
      else
        .error .noConstraints

/-- The integer of an item in a list of variables. -/
def loadInteger (name : String) (item : Value) : Except SettingFault Int :=
  let found : Option Int :=
    match item with
    | .integer number => some number
    | .text characters => Numeral.integer? characters.toList
    | .status result => Numeral.integer? result.word.toList
    | _ => none
  match found with
  | some number => .ok number
  | none => .error (.indexItem name item)

/-- The variable of an item, whose numbers start at one. -/
def loadVariable (name : String) (width : Nat) (item : Value) :
    Except SettingFault Nat := do
  let number ← loadInteger name item
  if number < 1 then
    throw (.indexTooSmall name number)
  if (width : Int) < number then
    throw (.indexTooLarge name number width)
  return (number - 1).toNat

/-- The text with blanks in the place of commas. -/
def commasToBlanks (text : String) : String :=
  String.ofList (text.toList.map fun character =>
    if character = ',' then ' ' else character)

/-- The variables of a list written as text, separated by commas and blanks, or
of all. -/
def readVariables (name : String) (width : Nat) (text : String) :
    Except SettingFault IndexSet :=
  if Text.lowerCase (Text.trim text) = "all" then
    .ok (.below width)
  else do
    let found ← (Text.words (commasToBlanks text)).mapM fun word =>
      loadVariable name width (.text word)
    return .ofList found

/-- The variables of a list of their numbers, or of all. -/
def loadVariables (name : String) (width : Nat) (value : Value) :
    Except SettingFault IndexSet := do
  match value with
  | .null => return .empty
  | .integer number =>
      let found ← loadVariable name width (.integer number)
      return .ofList [found]
  | .text characters => readVariables name width characters
  | .status result => readVariables name width result.word
  | .list items | .tuple items =>
      let found ← items.mapM (loadVariable name width)
      return .ofList found
  | other => throw (.indexList name other)

/-- Whether the objective is to be maximised. -/
def loadSense (entries : Entries) : Except SettingFault Bool :=
  let word := Text.lowerCase (Text.trim (loadText entries "sense" "max"))
  if word = "max" then .ok true
  else if word = "min" then .ok false
  else .error (.sense word)

/-- What becomes of the fault of a program: only what is wrong with the program
as a whole is a fault of the configuration. -/
def programFault (fault : ModelFault) : Fault :=
  if fault.kind = .invalidProgram then .setting (.program fault)
  else .model fault

/-- The program of a configuration. -/
def loadProgram (entries : Entries) : Except Fault LinearProgram := do
  let objective ← (loadSection entries "objective").mapError .setting
  let maximize ← (loadSense objective).mapError .setting
  let coefficients ← loadCoefficients "objective" none
    (Value.lookup? objective "coefficients")
  let width := coefficients.length
  let items ← (constraintItems entries).mapError .setting
  let constraints ← loadConstraints width 1 items
  let nonnegative ← (loadVariables "nonnegative" width
    ((Value.lookup? entries "nonnegative").getD (.text "all"))).mapError
      .setting
  let integers ← (loadVariables "integer" width
    ((Value.lookup? entries "integer").getD .null)).mapError .setting
  (LinearProgram.ofParts ⟨⟨coefficients⟩, maximize⟩ constraints
    (nonnegative.toList.map fun (index : Nat) => (index : Int))
    (integers.toList.map fun (index : Nat) => (index : Int))).mapError
      programFault

/-- The solver settings of a section. -/
def loadSolver (entries : Entries) : Except SettingFault SolverSettings :=
  let rule := loadText entries "pivot_rule" "random"
  if rule = "random" ∨ rule = "first" then
    match Value.lookup? entries "seed" with
    | none | some .null => .ok ⟨rule, none⟩
    | some (.integer seed) => .ok ⟨rule, some seed⟩
    | some other => .error (.seed other)
  else
    .error (.pivotRule rule)

/-- The run settings of a section. -/
def loadRun (entries : Entries) : RunSettings where
  logging := loadSwitch entries "logging" true
  plots := loadSwitch entries "plots" false
  check := loadSwitch entries "check" false

/-- The folder of a file: its path up to the last slash, which remains only
where it stands for the root.  A path without a slash starts from the current
folder. -/
def folderOf (path : String) : String :=
  match path.toList.reverse.dropWhile (· ≠ '/') with
  | [] => "."
  | [_] => "/"
  | _ :: folder => String.ofList folder.reverse

/-- The configuration of a value that was read from a file. -/
def load (path : String) (raw : Value) : Except Fault Configuration :=
  match raw with
  | .mapping entries => do
      let solverEntries ← (loadSection entries "solver").mapError .setting
      let runEntries ← (loadSection entries "run").mapError .setting
      let solver ← (loadSolver solverEntries).mapError .setting
      let program ← loadProgram entries
      return ⟨program, solver, loadRun runEntries, folderOf path⟩
  | _ => .error (.setting (.notMapping path))

end Configuration

end RationalSimplex
