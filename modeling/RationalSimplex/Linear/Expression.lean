import RationalSimplex.Index
import RationalSimplex.Numeral
import RationalSimplex.Value.Arithmetic

/-!
# Linear expressions

A linear expression is the list of its coefficients, one for every variable.
Its value at a point is the sum of the coefficients times the coordinates.
-/

namespace RationalSimplex

/-- The sum of the products of two lists, as far as both reach. -/
def dot : List Rat → List Rat → Rat
  | left :: lefts, right :: rights => left * right + dot lefts rights
  | _, _ => 0

/-- A sum of coefficients times variables. -/
structure Expression where
  coefficients : List Rat
deriving DecidableEq

namespace Expression

/-- The number of variables. -/
def width (expression : Expression) : Nat :=
  expression.coefficients.length

/-- The expression whose coefficients are the members of a value. -/
def ofValue (source : Value) : Except Fault Expression :=
  match source.members? with
  | none => .error (.operand (.notIterable source.kind))
  | some members =>
      match Value.toRats members with
      | .ok coefficients => .ok ⟨coefficients⟩
      | .error fault => .error (.number fault)

/-- The coefficient at a position. -/
def coefficient (expression : Expression) (position : Int) : Except Fault Rat :=
  match elementAt? expression.coefficients position with
  | some number => .ok number
  | none => .error (.index (.missing .coefficient position))

/-- The negated expression. -/
def negated (expression : Expression) : Expression :=
  ⟨expression.coefficients.map (- ·)⟩

/-- For each listed variable a new one, at the end and with the opposite
coefficient, so that the difference of the two stands for the listed
variable. -/
def splitVariables (expression : Expression) (indices : List Nat) :
    Expression :=
  ⟨expression.coefficients ++
    indices.map fun index => -(expression.coefficients.getD index 0)⟩

/-- Split the variable at a position. -/
def splitVariable (expression : Expression) (position : Int) :
    Except Fault Expression :=
  match resolveIndex? expression.width position with
  | some index => .ok (expression.splitVariables [index])
  | none => .error (.index (.missing .coefficient position))

/-- The value at a point, which needs a coordinate for every variable and may
have more. -/
def evaluate (expression : Expression) (point : List Rat) : Except Fault Rat :=
  if point.length < expression.width then
    .error (.model (.shortPoint point.length expression.width))
  else
    .ok (dot expression.coefficients point)

/-- Whether every coefficient is zero. -/
def isZero (expression : Expression) : Bool :=
  expression.coefficients.all (· == 0)

/-- The first variable whose coefficient is not zero. -/
def firstVariable (expression : Expression) : Except Fault Nat :=
  match expression.coefficients.findIdx? (· != 0) with
  | some index => .ok index
  | none => .error (.model .noTerm)

/-- The sign and the text of each term, the variables numbered from one. -/
def terms : Nat → List Rat → List (Bool × String)
  | _, [] => []
  | number, coefficient :: coefficients =>
      let rest := terms (number + 1) coefficients
      if coefficient = 0 then
        rest
      else
        let negative := decide (coefficient < 0)
        let magnitude := if coefficient < 0 then -coefficient else coefficient
        let name := "x" ++ toString number
        let body :=
          if magnitude = 1 then name else fractionText magnitude ++ "*" ++ name
        (negative, body) :: rest

/-- The text of the expression: its terms without the zero ones. -/
def text (expression : Expression) : String :=
  match terms 1 expression.coefficients with
  | [] => "0"
  | (negative, body) :: rest =>
      rest.foldl
        (fun text term => text ++ (if term.1 then " - " else " + ") ++ term.2)
        (if negative then "-" ++ body else body)

end Expression

/-- A linear expression to be maximised or minimised. -/
structure Objective where
  expression : Expression
  maximize : Bool
deriving DecidableEq

namespace Objective

/-- The negated expression with the opposite sense, which has the same optimal
points. -/
def negated (objective : Objective) : Objective :=
  ⟨objective.expression.negated, !objective.maximize⟩

/-- Split the listed variables. -/
def splitVariables (objective : Objective) (indices : List Nat) : Objective :=
  ⟨objective.expression.splitVariables indices, objective.maximize⟩

/-- Split the variable at a position. -/
def splitVariable (objective : Objective) (position : Int) :
    Except Fault Objective :=
  match objective.expression.splitVariable position with
  | .ok expression => .ok ⟨expression, objective.maximize⟩
  | .error fault => .error fault

/-- The value at a point. -/
def evaluate (objective : Objective) (point : List Rat) : Except Fault Rat :=
  objective.expression.evaluate point

/-- The text of the objective. -/
def text (objective : Objective) : String :=
  objective.expression.text ++ " -> " ++
    (if objective.maximize then "max" else "min")

end Objective

end RationalSimplex
