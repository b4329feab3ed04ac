/-!
# Operators, relations and statuses

The signs that join two values in a calculation or a comparison, the relations
by which a constraint compares a linear expression with a constant, and the
statuses of a solve, with the signs and words by which they are written.
-/

namespace RationalSimplex

/-! ## Operators -/

/-- The operations of arithmetic. -/
inductive Operator where
  | add
  | subtract
  | multiply
  | divide
  | power
deriving DecidableEq

/-- The sign by which messages name an operation. -/
def Operator.symbol : Operator → String
  | .add => "+"
  | .subtract => "-"
  | .multiply => "*"
  | .divide => "/"
  | .power => "** or pow()"

/-- The comparisons of order. -/
inductive Comparison where
  | less
  | lessOrEqual
  | greater
  | greaterOrEqual
deriving DecidableEq

namespace Comparison

/-- The sign of a comparison. -/
def symbol : Comparison → String
  | .less => "<"
  | .lessOrEqual => "<="
  | .greater => ">"
  | .greaterOrEqual => ">="

/-- The two numbers stand in the order. -/
def Holds : Comparison → Rat → Rat → Prop
  | .less, left, right => left < right
  | .lessOrEqual, left, right => left ≤ right
  | .greater, left, right => right < left
  | .greaterOrEqual, left, right => right ≤ left

instance (comparison : Comparison) (left right : Rat) :
    Decidable (comparison.Holds left right) := by
  cases comparison <;> unfold Holds <;> infer_instance

end Comparison

/-! ## Relations -/

/-- How the two sides of a constraint are related. -/
inductive Relation where
  | le
  | eq
  | ge
deriving DecidableEq

namespace Relation

/-- The sign of the relation. -/
def symbol : Relation → String
  | .le => "<="
  | .eq => "="
  | .ge => ">="

/-- The name of the relation. -/
def label : Relation → String
  | .le => "LE"
  | .eq => "EQ"
  | .ge => "GE"

/-- The relation after both sides have been negated. -/
def flipped : Relation → Relation
  | .le => .ge
  | .eq => .eq
  | .ge => .le

/-- The two numbers stand in the relation. -/
def Holds : Relation → Rat → Rat → Prop
  | .le, left, right => left ≤ right
  | .eq, left, right => left = right
  | .ge, left, right => right ≤ left

instance (relation : Relation) (left right : Rat) :
    Decidable (relation.Holds left right) := by
  cases relation <;> unfold Holds <;> infer_instance

/-- The words and signs by which a relation is written. -/
def spellings : List (String × Relation) :=
  [("<=", .le), ("le", .le), ("≤", .le), ("=", .eq), ("==", .eq), ("eq", .eq),
   (">=", .ge), ("ge", .ge), ("≥", .ge)]

/-- The relation of a spelling, which has no blanks and no capitals. -/
def ofSpelling? (spelling : String) : Option Relation :=
  spellings.lookup spelling

end Relation

/-! ## Statuses -/

/-- How a solved program ends. -/
inductive Status where
  | optimal
  | infeasible
  | unbounded
deriving DecidableEq

namespace Status

/-- The word for the status. -/
def word : Status → String
  | .optimal => "optimal"
  | .infeasible => "infeasible"
  | .unbounded => "unbounded"

/-- The name of the status, in capitals. -/
def label : Status → String
  | .optimal => "OPTIMAL"
  | .infeasible => "INFEASIBLE"
  | .unbounded => "UNBOUNDED"

end Status

end RationalSimplex
