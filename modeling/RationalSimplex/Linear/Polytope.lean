import RationalSimplex.Index
import RationalSimplex.Linear.Constraint
import RationalSimplex.SlotTable

/-!
# Polytopes

A polytope is the set of points that satisfy a list of constraints over the same
variables, some of which may not be negative.  It has at least one constraint,
so that its dimension is known.
-/

namespace RationalSimplex

/-- Constraints over the same variables, and the variables that may not be
negative. -/
structure Polytope where
  dimension : Nat
  constraints : List Constraint
  nonnegative : IndexSet
  constraints_ne_nil : constraints ≠ []
  width_eq : ∀ constraint ∈ constraints, constraint.width = dimension
  nonnegative_lt : ∀ index ∈ nonnegative, index < dimension
deriving DecidableEq

namespace Polytope

/-- The first constraint of another width, with its number counted from one. -/
def unevenConstraint? (width : Nat) (constraints : List Constraint) :
    Option (Nat × Constraint) :=
  (constraints.zipIdx 1).findSome? fun numbered =>
    if numbered.1.width = width then none else some (numbered.2, numbered.1)

theorem unevenConstraint?_eq_none_iff {width : Nat}
    {constraints : List Constraint} :
    unevenConstraint? width constraints = none ↔
      ∀ constraint ∈ constraints, constraint.width = width := by
  unfold unevenConstraint?
  rw [List.findSome?_eq_none_iff]
  constructor
  · intro even constraint member
    obtain ⟨index, lt, equality⟩ := List.getElem_of_mem member
    have numbered : (constraint, 1 + index) ∈ constraints.zipIdx 1 := by
      rw [List.mk_mem_zipIdx_iff_le_and_getElem?_sub]
      simp [List.getElem?_eq_getElem lt, equality]
    have := even _ numbered
    simpa using this
  · intro even numbered member
    have := even numbered.1 (List.fst_mem_of_mem_zipIdx member)
    simp [this]

/-- The distinct indices in the order in which their set is visited. -/
def visitedIndices (indices : List Int) : List Int :=
  visitingOrder
    ((distinct indices).map fun (index : Int) => (numberKey index, index))

/-- A listed index that is no variable, the first one in the order in which
their set is visited. -/
def outOfRange? (width : Nat) (indices : List Int) : Option Int :=
  let isWrong (index : Int) : Bool := decide (index < 0 ∨ (width : Int) ≤ index)
  match indices.find? isWrong with
  | none => none
  | some first => some (((visitedIndices indices).find? isWrong).getD first)

theorem lt_of_outOfRange?_eq_none {width : Nat} {indices : List Int}
    (absent : outOfRange? width indices = none) {index : Int}
    (member : index ∈ indices) :
    0 ≤ index ∧ index < width := by
  simp only [outOfRange?] at absent
  split at absent
  · next missing =>
    have := List.find?_eq_none.mp missing index member
    simp at this
    omega
  · simp at absent

/-- The polytope of a list of constraints and of the indices of nonnegative
variables. -/
def make (constraints : List Constraint) (nonnegative : List Int) :
    Except ModelFault Polytope :=
  match constraints with
  | [] => .error .noHalfSpace
  | first :: rest =>
      match uneven : unevenConstraint? first.width (first :: rest) with
      | some (number, constraint) =>
          .error (.unevenConstraint number constraint.width first.width)
      | none =>
          match inRange : outOfRange? first.width nonnegative with
          | some index => .error (.nonnegativeOutOfRange index)
          | none => .ok {
              dimension := first.width
              constraints := first :: rest
              nonnegative := .ofInts nonnegative
              constraints_ne_nil := List.cons_ne_nil first rest
              width_eq := unevenConstraint?_eq_none_iff.mp uneven
              nonnegative_lt := fun _ member =>
                IndexSet.lt_of_mem_ofInts
                  (fun _ => lt_of_outOfRange?_eq_none inRange) member }

/-- The point satisfies every constraint and has no negative coordinate where
none is allowed. -/
def Contains (polytope : Polytope) (point : List Rat) : Prop :=
  (∀ constraint ∈ polytope.constraints, constraint.SatisfiedBy point) ∧
    ∀ index ∈ polytope.nonnegative, 0 ≤ point.getD index 0

instance (polytope : Polytope) (point : List Rat) :
    Decidable (polytope.Contains point) :=
  inferInstanceAs
    (Decidable (_ ∧
      ∀ index ∈ polytope.nonnegative.toList, 0 ≤ point.getD index 0))

/-- Whether a point, which needs enough coordinates, lies in the polytope. -/
def contains (polytope : Polytope) (point : List Rat) : Except Fault Bool :=
  match polytope.constraints.allM fun constraint =>
    constraint.satisfied point with
  | .error fault => .error fault
  | .ok false => .ok false
  | .ok true => polytope.nonnegative.toList.allM fun (index : Nat) =>
      match point[index]? with
      | some coordinate => .ok (decide (0 ≤ coordinate))
      | none => .error (.index .coefficient)

end Polytope

end RationalSimplex
