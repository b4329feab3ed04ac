import RationalSimplex.Fault.Basic
import RationalSimplex.Tableau.Basic

/-!
# Pivot rules

A pivot rule answers the list of admissible pivots with one of them.  It may
keep a state from call to call, and it may answer with anything: what it answers
is checked before it is used.
-/

namespace RationalSimplex

/-- How a pivot is chosen, with a state of type `σ`. -/
structure PivotRule (σ : Type) where
  answer : σ → List Pivot → List Int × σ

/-- A generator of random numbers, with a state of type `σ`. -/
structure Generator (σ : Type) where
  /-- The state that a seed leads to, or any state where there is none. -/
  start : Option Int → σ
  /-- A number below a count, and the state behind it. -/
  draw : σ → Nat → Nat × σ
  draw_lt : ∀ state count, 0 < count → (draw state count).1 < count

/-- The pivot as a list of its row and column. -/
def pivotAnswer (pivot : Pivot) : List Int :=
  [(pivot.1 : Int), (pivot.2 : Int)]

namespace PivotRule

variable {σ : Type}

/-- The rule always answers with one of the pivots that it is offered. -/
def Respects (rule : PivotRule σ) : Prop :=
  ∀ state pivots, pivots ≠ [] →
    ∃ pivot ∈ pivots, (rule.answer state pivots).1 = pivotAnswer pivot

/-- Ask the rule for a pivot and refuse an answer that was not offered. -/
def select (rule : PivotRule σ) (state : σ) (pivots : List Pivot) :
    Except Fault (Pivot × σ) :=
  let answered := rule.answer state pivots
  match pivots.find? fun pivot => pivotAnswer pivot == answered.1 with
  | some pivot => .ok (pivot, answered.2)
  | none => .error (.engine (.invalidPivot answered.1))

/-- The rule that picks by place in the list, with the place computed from the
state and the number of pivots. -/
def byPlace (place : σ → Nat → Nat) (next : σ → σ) : PivotRule σ where
  answer state pivots :=
    ((pivots[place state pivots.length]?.map pivotAnswer).getD [], next state)

/-- The first admissible pivot. -/
def first : PivotRule Unit :=
  byPlace (fun _ _ => 0) id

/-- The last admissible pivot. -/
def last : PivotRule Unit :=
  byPlace (fun _ count => count - 1) id

/-- Call by call the places of a list, again from its start when it is used up,
each counted round the admissible pivots.  The state is the number of calls so
far. -/
def cycling (places : List Int) : PivotRule Nat :=
  byPlace
    (fun calls count =>
      ((places.getD (calls % places.length) 0).emod (count : Int)).toNat)
    (· + 1)

/-- The same answer every time, whether it is admissible or not. -/
def constant (given : List Int) : PivotRule Unit where
  answer _ _ := (given, ())

/-- A place drawn by a generator of random numbers. -/
def random (generator : Generator σ) : PivotRule σ where
  answer state pivots :=
    let drawn := generator.draw state pivots.length
    ((pivots[drawn.1]?.map pivotAnswer).getD [], drawn.2)

end PivotRule

end RationalSimplex
