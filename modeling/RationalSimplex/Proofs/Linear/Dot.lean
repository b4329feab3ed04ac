import Mathlib.Algebra.BigOperators.Group.Finset.Basic
import Mathlib.Algebra.BigOperators.Ring.Finset
import Mathlib.Algebra.Field.Rat
import Mathlib.Tactic.Ring
import RationalSimplex.Linear.Expression

/-!
# Sums of products

The sum of the products of two lists, as the value of an expression at a point
is computed, is a finite sum over the places of the lists.  Lists that are put
together, negated or changed at one place have the sums that one expects.
-/

namespace RationalSimplex

@[simp] theorem dot_nil_left (right : List Rat) : dot [] right = 0 := by
  cases right <;> rfl

@[simp] theorem dot_nil_right (left : List Rat) : dot left [] = 0 := by
  cases left <;> rfl

@[simp] theorem dot_cons_cons (first second : Rat) (left right : List Rat) :
    dot (first :: left) (second :: right) = first * second + dot left right :=
  rfl

/-- Beyond the end of the left list all products are zero. -/
theorem dot_eq_sum {left : List Rat} {size : Nat} (fits : left.length ≤ size)
    (right : List Rat) :
    dot left right =
      ∑ place ∈ Finset.range size, left.getD place 0 * right.getD place 0 := by
  induction left generalizing size right with
  | nil => simp
  | cons first left induction =>
      cases right with
      | nil => simp
      | cons second right =>
          cases size with
          | zero => simp at fits
          | succ size =>
              have shorter : left.length ≤ size := by simpa using fits
              have tail := induction shorter right
              rw [Finset.sum_range_succ', dot_cons_cons, tail]
              simp [add_comm]

theorem dot_map_range {left : List Rat} {size : Nat}
    (fits : left.length ≤ size) (values : Nat → Rat) :
    dot left ((List.range size).map values) =
      ∑ place ∈ Finset.range size, left.getD place 0 * values place := by
  rw [dot_eq_sum fits]
  apply Finset.sum_congr rfl
  intro place member
  simp [Finset.mem_range.mp member]

theorem dot_append {left right : List Rat} (same : left.length = right.length)
    (lefts rights : List Rat) :
    dot (left ++ lefts) (right ++ rights) =
      dot left right + dot lefts rights := by
  induction left generalizing right with
  | nil =>
      obtain rfl : right = [] := List.eq_nil_of_length_eq_zero same.symm
      simp
  | cons first left induction =>
      cases right with
      | nil => simp at same
      | cons second right =>
          have shorter : left.length = right.length := by simpa using same
          have tail := induction shorter
          simp only [List.cons_append, dot_cons_cons, tail]
          ring

@[simp] theorem dot_map_neg (left right : List Rat) :
    dot (left.map (- ·)) right = -dot left right := by
  induction left generalizing right with
  | nil => simp
  | cons first left induction =>
      cases right with
      | nil => simp
      | cons second right =>
          simp only [List.map_cons, dot_cons_cons, induction]
          ring

theorem dot_map_sub {α : Type} (left : List Rat) (items : List α)
    (first second : α → Rat) :
    dot left (items.map fun item => first item - second item) =
      dot left (items.map first) - dot left (items.map second) := by
  induction items generalizing left with
  | nil => simp
  | cons item items induction =>
      cases left with
      | nil => simp
      | cons number left =>
          simp only [List.map_cons, dot_cons_cons, induction]
          ring

/-- The right list is not read beyond the end of the left one. -/
theorem dot_take {left : List Rat} {count : Nat} (fits : left.length ≤ count)
    (right : List Rat) : dot left (right.take count) = dot left right := by
  induction left generalizing count right with
  | nil => simp
  | cons first left induction =>
      cases right with
      | nil => simp
      | cons second right =>
          cases count with
          | zero => simp at fits
          | succ count =>
              have shorter : left.length ≤ count := by simpa using fits
              have tail := induction shorter right
              simp [tail]

theorem dot_set (left : List Rat) {right : List Rat} {place : Nat}
    (inside : place < right.length) (number : Rat) :
    dot left (right.set place number) =
      dot left right + left.getD place 0 * (number - right.getD place 0) := by
  induction left generalizing right place with
  | nil => simp
  | cons first left induction =>
      cases right with
      | nil => simp at inside
      | cons second right =>
          cases place with
          | zero =>
              simp only [List.set_cons_zero, dot_cons_cons,
                List.getD_cons_zero]
              ring
          | succ place =>
              have before : place < right.length := by simpa using inside
              have tail := induction before
              simp only [List.set_cons_succ, dot_cons_cons, tail,
                List.getD_cons_succ]
              ring

end RationalSimplex
