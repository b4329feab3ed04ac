/-!
# Positions and sets of indices

A position in a sequence is counted from the front when it is not negative, and
from the end when it is: minus one is the last element.  A finite set of
variables is the list of their indices in ascending order, each once, so that
two sets with the same members are equal.
-/

namespace RationalSimplex

/-! ## Positions -/

/-- The number fits a word of sixty-four bits with a sign. -/
def FitsWord (number : Int) : Prop :=
  -9223372036854775808 ≤ number ∧ number < 9223372036854775808

instance (number : Int) : Decidable (FitsWord number) := by
  unfold FitsWord
  infer_instance

/-- The number fits a word of sixty-four bits without a sign only. -/
def FitsUnsigned (number : Int) : Prop :=
  9223372036854775808 ≤ number ∧ number < 18446744073709551616

instance (number : Int) : Decidable (FitsUnsigned number) := by
  unfold FitsUnsigned
  infer_instance

/-- The index from the front that a position means in a sequence of the given
size. -/
def resolveIndex? (size : Nat) (position : Int) : Option Nat :=
  if 0 ≤ position then
    if position < size then some position.toNat else none
  else if 0 ≤ position + size then
    some (position + size).toNat
  else
    none

/-- The element at a position. -/
def elementAt? {α : Type} (items : List α) (position : Int) : Option α :=
  (resolveIndex? items.length position).bind fun index => items[index]?

/-! ## Index sets -/

/-- A finite set of indices, listed in ascending order. -/
structure IndexSet where
  toList : List Nat
  ascending : toList.Pairwise (· < ·)
deriving DecidableEq

/-- Put an index at its place in an ascending list, unless it is there
already. -/
def insertAscending (index : Nat) : List Nat → List Nat
  | [] => [index]
  | head :: tail =>
      if index < head then index :: head :: tail
      else if index = head then head :: tail
      else head :: insertAscending index tail

@[simp]
theorem mem_insertAscending {member index : Nat} {indices : List Nat} :
    member ∈ insertAscending index indices ↔
      member = index ∨ member ∈ indices := by
  induction indices with
  | nil => simp [insertAscending]
  | cons head tail induction =>
      unfold insertAscending
      split
      · simp
      · split
        · next equality => simp [equality]
        · simp [induction, or_left_comm]

theorem pairwise_insertAscending {index : Nat} {indices : List Nat}
    (ascending : indices.Pairwise (· < ·)) :
    (insertAscending index indices).Pairwise (· < ·) := by
  induction indices with
  | nil => simp [insertAscending]
  | cons head tail induction =>
      obtain ⟨headLeast, tailAscending⟩ := List.pairwise_cons.mp ascending
      unfold insertAscending
      split
      · next less =>
        refine List.pairwise_cons.mpr ⟨fun member isMember => ?_, ascending⟩
        rcases List.mem_cons.mp isMember with rfl | isMember
        · exact less
        · exact Nat.lt_trans less (headLeast member isMember)
      · next notLess =>
        split
        · exact ascending
        · next different =>
          refine List.pairwise_cons.mpr
            ⟨fun member isMember => ?_, induction tailAscending⟩
          rcases mem_insertAscending.mp isMember with rfl | isMember
          · omega
          · exact headLeast member isMember

/-- Ascending lists with the same members are equal. -/
theorem eq_of_ascending {left right : List Nat}
    (leftAscending : left.Pairwise (· < ·))
    (rightAscending : right.Pairwise (· < ·))
    (same : ∀ index, index ∈ left ↔ index ∈ right) :
    left = right := by
  induction left generalizing right with
  | nil =>
      exact (List.eq_nil_iff_forall_not_mem.mpr
        fun index => by simp [← same]).symm
  | cons first lefts induction =>
      cases right with
      | nil =>
          exact absurd ((same first).mp List.mem_cons_self) List.not_mem_nil
      | cons second rights =>
          obtain ⟨firstLeast, leftsAscending⟩ :=
            List.pairwise_cons.mp leftAscending
          obtain ⟨secondLeast, rightsAscending⟩ :=
            List.pairwise_cons.mp rightAscending
          have heads : first = second := by
            rcases List.mem_cons.mp
              ((same first).mp List.mem_cons_self) with equal | later
            · exact equal
            · rcases List.mem_cons.mp
                ((same second).mpr List.mem_cons_self) with equal | earlier
              · exact equal.symm
              · have := secondLeast first later
                have := firstLeast second earlier
                omega
          subst heads
          have tails : lefts = rights := by
            refine induction leftsAscending rightsAscending fun index =>
              ⟨fun member => ?_, fun member => ?_⟩
            · have := firstLeast index member
              rcases List.mem_cons.mp
                ((same index).mp (List.mem_cons_of_mem _ member)) with _ | other
              · omega
              · exact other
            · have := secondLeast index member
              rcases List.mem_cons.mp
                ((same index).mpr (List.mem_cons_of_mem _ member))
              with _ | other
              · omega
              · exact other
          rw [tails]

namespace IndexSet

instance : Membership Nat IndexSet where
  mem indices index := index ∈ indices.toList

instance (index : Nat) (indices : IndexSet) : Decidable (index ∈ indices) :=
  inferInstanceAs (Decidable (index ∈ indices.toList))

@[simp]
theorem mem_toList {index : Nat} {indices : IndexSet} :
    index ∈ indices.toList ↔ index ∈ indices :=
  Iff.rfl

/-- Sets with the same members are equal. -/
theorem eq_of_mem_iff {left right : IndexSet}
    (same : ∀ index, index ∈ left ↔ index ∈ right) :
    left = right := by
  obtain ⟨lefts, leftAscending⟩ := left
  obtain ⟨rights, rightAscending⟩ := right
  obtain rfl := eq_of_ascending leftAscending rightAscending same
  rfl

/-- The set without members. -/
def empty : IndexSet := ⟨[], List.Pairwise.nil⟩

theorem not_mem_empty {index : Nat} : index ∉ empty :=
  List.not_mem_nil

/-- The indices less than a bound. -/
def below (bound : Nat) : IndexSet := ⟨List.range bound, List.pairwise_lt_range⟩

@[simp]
theorem mem_below {index bound : Nat} : index ∈ below bound ↔ index < bound :=
  List.mem_range

/-- The set with one more member. -/
def insert (index : Nat) (indices : IndexSet) : IndexSet :=
  ⟨insertAscending index indices.toList,
    pairwise_insertAscending indices.ascending⟩

@[simp]
theorem mem_insert {member index : Nat} {indices : IndexSet} :
    member ∈ indices.insert index ↔ member = index ∨ member ∈ indices :=
  mem_insertAscending

/-- The set of the listed indices. -/
def ofList (indices : List Nat) : IndexSet :=
  indices.foldr insert empty

@[simp]
theorem mem_ofList {member : Nat} {indices : List Nat} :
    member ∈ ofList indices ↔ member ∈ indices := by
  induction indices with
  | nil => simp [ofList, not_mem_empty]
  | cons head tail induction =>
      have step : ofList (head :: tail) = (ofList tail).insert head := rfl
      simp [step, induction]

/-- The set of the listed indices, none of which may be negative. -/
def ofInts (indices : List Int) : IndexSet :=
  ofList (indices.map Int.toNat)

theorem lt_of_mem_ofInts {width : Nat} {indices : List Int}
    (inside : ∀ index ∈ indices, 0 ≤ index ∧ index < width) {index : Nat}
    (member : index ∈ ofInts indices) : index < width := by
  obtain ⟨given, givenMember, rfl⟩ := List.mem_map.mp (mem_ofList.mp member)
  have := inside given givenMember
  omega

end IndexSet

end RationalSimplex
