import Mathlib.Order.Nat
import Mathlib.Tactic.Contrapose
import RationalSimplex.Sorting.Runs

/-!
# Orders and searches

Precedence may be an order on some things and none on others, so that every
statement about sorted lists says which things are compared.  A search by leaps
or by halves finds where a property ends if it holds of a front part of a list,
as precedence does in a sorted one.
-/

namespace RationalSimplex.Sorting

variable {α : Type} {less : α → α → Bool} {among : α → Prop}

/-! ## Orders -/

/-- The first thing may stand in front of the second. -/
def NotAfter (less : α → α → Bool) (first second : α) : Prop :=
  less second first = false

/-- On things of a kind, what precedes is not preceded, and what may stand in
front of one another may stand in a row. -/
structure IsOrder (less : α → α → Bool) (among : α → Prop) : Prop where
  asymm : ∀ {first second : α}, among first → among second →
    less first second = true → NotAfter less first second
  trans : ∀ {first second third : α}, among first → among second →
    among third → NotAfter less first second → NotAfter less second third →
      NotAfter less first third

/-- The things of a list are of the kind, and each may stand in front of all
behind it. -/
structure IsSorted (less : α → α → Bool) (among : α → Prop) (items : List α) :
    Prop where
  among : ∀ item ∈ items, among item
  ordered : items.Pairwise (NotAfter less)

theorem IsOrder.precedes_trans (order : IsOrder less among)
    {first second third : α} (firstAmong : among first)
    (secondAmong : among second) (thirdAmong : among third)
    (earlier : less first second = true) (later : less second third = true) :
    less first third = true := by
  by_contra behind
  have backwards : NotAfter less second first :=
    order.trans secondAmong thirdAmong firstAmong
      (order.asymm secondAmong thirdAmong later)
      (Bool.eq_false_iff.mpr behind)
  rw [NotAfter, earlier] at backwards
  cases backwards

/-- Turned round, an order is one too. -/
theorem IsOrder.flip (order : IsOrder less among) :
    IsOrder (fun first second => less second first) among where
  asymm firstAmong secondAmong := order.asymm secondAmong firstAmong
  trans firstAmong secondAmong thirdAmong earlier later :=
    order.trans thirdAmong secondAmong firstAmong later earlier

section

variable {items front back : List α} {item : α}

theorem IsSorted.nil : IsSorted less among [] :=
  ⟨List.forall_mem_nil _, List.Pairwise.nil⟩

theorem IsSorted.sublist {part : List α} (sorted : IsSorted less among items)
    (sublist : part.Sublist items) : IsSorted less among part where
  among item member := sorted.among item (sublist.subset member)
  ordered := sorted.ordered.sublist sublist

@[simp] theorem isSorted_append_iff :
    IsSorted less among (front ++ back) ↔
      IsSorted less among front ∧ IsSorted less among back ∧
        ∀ first ∈ front, ∀ second ∈ back, NotAfter less first second := by
  constructor
  · rintro ⟨members, ordered⟩
    obtain ⟨frontOrdered, backOrdered, across⟩ :=
      List.pairwise_append.mp ordered
    obtain ⟨frontAmong, backAmong⟩ := List.forall_mem_append.mp members
    exact ⟨⟨frontAmong, frontOrdered⟩, ⟨backAmong, backOrdered⟩, across⟩
  · rintro ⟨⟨frontAmong, frontOrdered⟩, ⟨backAmong, backOrdered⟩, across⟩
    exact ⟨List.forall_mem_append.mpr ⟨frontAmong, backAmong⟩,
      List.pairwise_append.mpr ⟨frontOrdered, backOrdered, across⟩⟩

@[simp] theorem isSorted_cons_iff :
    IsSorted less among (item :: items) ↔
      among item ∧ (∀ other ∈ items, NotAfter less item other) ∧
        IsSorted less among items := by
  constructor
  · rintro ⟨members, ordered⟩
    obtain ⟨itemAmong, itemsAmong⟩ := List.forall_mem_cons.mp members
    obtain ⟨across, itemsOrdered⟩ := List.pairwise_cons.mp ordered
    exact ⟨itemAmong, across, itemsAmong, itemsOrdered⟩
  · rintro ⟨itemAmong, across, itemsAmong, itemsOrdered⟩
    exact ⟨List.forall_mem_cons.mpr ⟨itemAmong, itemsAmong⟩,
      List.pairwise_cons.mpr ⟨across, itemsOrdered⟩⟩

/-- Read from behind, a sorted list is sorted the other way. -/
@[simp] theorem isSorted_reverse_iff :
    IsSorted (fun first second => less second first) among items.reverse ↔
      IsSorted less among items := by
  constructor
  · rintro ⟨members, ordered⟩
    exact ⟨fun item member => members item (List.mem_reverse.mpr member),
      List.pairwise_reverse.mp ordered⟩
  · rintro ⟨members, ordered⟩
    exact ⟨fun item member => members item (List.mem_reverse.mp member),
      List.pairwise_reverse.mpr ordered⟩

/-- A thing fits between two parts of a sorted list. -/
theorem IsSorted.insert (sorted : IsSorted less among (front ++ back))
    (itemAmong : among item)
    (behind : ∀ first ∈ front, NotAfter less first item)
    (before : ∀ second ∈ back, NotAfter less item second) :
    IsSorted less among (front ++ item :: back) := by
  obtain ⟨frontSorted, backSorted, across⟩ := isSorted_append_iff.mp sorted
  refine isSorted_append_iff.mpr ⟨frontSorted,
    isSorted_cons_iff.mpr ⟨itemAmong, before, backSorted⟩, ?_⟩
  intro first firstMember second secondMember
  rcases List.mem_cons.mp secondMember with rfl | later
  · exact behind first firstMember
  · exact across first firstMember second later

/-- What may stand in front of the first thing of a sorted list may stand in
front of all of them. -/
theorem IsSorted.notAfter_of_head (sorted : IsSorted less among items)
    (order : IsOrder less among) (itemAmong : among item)
    (before : ∀ head ∈ items.head?, NotAfter less item head) :
    ∀ other ∈ items, NotAfter less item other := by
  intro other member
  cases items with
  | nil => cases member
  | cons head rest =>
      have headFirst := before head rfl
      obtain ⟨headAmong, across, restSorted⟩ := isSorted_cons_iff.mp sorted
      rcases List.mem_cons.mp member with rfl | later
      · exact headFirst
      · exact order.trans itemAmong headAmong (restSorted.among other later)
          headFirst (across other later)

theorem IsOrder.notAfter_self (order : IsOrder less among)
    (itemAmong : among item) : NotAfter less item item := by
  by_contra precedes
  have holds : less item item = true := by simpa [NotAfter] using precedes
  exact precedes (order.asymm itemAmong itemAmong holds)

/-- Everything in a sorted list may stand in front of its last thing. -/
theorem IsSorted.notAfter_last {last : α} (sorted : IsSorted less among items)
    (order : IsOrder less among) (isLast : items.getLast? = some last) :
    ∀ other ∈ items, NotAfter less other last := by
  obtain ⟨front, rfl⟩ := List.getLast?_eq_some_iff.mp isLast
  obtain ⟨_, lastSorted, across⟩ := isSorted_append_iff.mp sorted
  intro other member
  rcases List.mem_append.mp member with earlier | same
  · exact across other earlier last List.mem_cons_self
  · obtain rfl := List.mem_singleton.mp same
    exact order.notAfter_self (lastSorted.among other List.mem_cons_self)

end

/-! ## Searching -/

section Searching

variable {holds : Nat → Bool} {low high limit last step : Nat}

/-- Up to a place of a range the property holds, and from it on it does not. -/
structure IsBoundary (holds : Nat → Bool) (low high place : Nat) : Prop where
  low_le : low ≤ place
  le_high : place ≤ high
  before : ∀ {index : Nat}, low ≤ index → index < place → holds index = true
  behind : ∀ {index : Nat}, place ≤ index → index < high → holds index = false

/-- In a range the property holds of a front part. -/
def HoldsInFront (holds : Nat → Bool) (low high : Nat) : Prop :=
  ∀ first second, low ≤ first → first ≤ second → second < high →
    holds second = true → holds first = true

theorem Direction.middle_mem (direction : Direction) (nonempty : low < high) :
    low ≤ direction.middle low high ∧ direction.middle low high < high := by
  cases direction with
  | forward =>
      simp only [middle]
      omega
  | backward =>
      simp only [middle]
      omega

theorem isBoundary_boundary (direction : Direction) (ordered : low ≤ high)
    (front : HoldsInFront holds low high) :
    IsBoundary holds low high (boundary direction holds low high) := by
  fun_induction boundary direction holds low high with
  | case1 low high nonempty middle found induction =>
      have inside := direction.middle_mem nonempty
      have upper := induction inside.2 fun first second fromMiddle =>
        front first second (by omega)
      refine ⟨by have := upper.low_le; omega, upper.le_high, ?_, upper.behind⟩
      intro index fromLow below
      rcases Nat.lt_or_ge middle index with above | atMost
      · exact upper.before above below
      · exact front _ _ fromLow atMost inside.2 found
  | case2 low high nonempty middle missed induction =>
      have inside := direction.middle_mem nonempty
      have lower := induction inside.1 fun first second fromLow less below =>
        front first second fromLow less (by omega)
      refine ⟨lower.low_le, by have := lower.le_high; omega, lower.before, ?_⟩
      intro index fromPlace below
      rcases Nat.lt_or_ge index middle with less | atLeast
      · exact lower.behind fromPlace less
      · have lowLe := lower.low_le
        exact Bool.eq_false_iff.mpr fun held =>
          missed (front _ _ inside.1 atLeast below held)
  | case3 low high empty =>
      obtain rfl : low = high := by omega
      exact ⟨le_rfl, le_rfl, by omega, by omega⟩

/-- Steps find a place where the property holds, and a later one where it does
not or that is the limit. -/
theorem stride_spec (lastInside : last < limit) (forth : last < step)
    (held : holds last = true) :
    holds (stride holds limit last step).1 = true ∧
      (stride holds limit last step).1 < (stride holds limit last step).2 ∧
      (stride holds limit last step).2 ≤ limit ∧
      ((stride holds limit last step).2 < limit →
        holds (stride holds limit last step).2 = false) := by
  fun_induction stride holds limit last step with
  | case1 last step inside found induction =>
      exact induction inside (by omega) found
  | case2 last step inside missed =>
      exact ⟨held, forth, inside.le, fun _ => Bool.eq_false_iff.mpr missed⟩
  | case3 last step outside =>
      exact ⟨held, lastInside, le_rfl, fun less => absurd less (by omega)⟩

variable {items : List α} {test : α → Bool} {count : Nat}

/-- The things up to a place pass the test, and those behind do not. -/
structure DividedAt (test : α → Bool) (items : List α) (count : Nat) :
    Prop where
  count_le : count ≤ items.length
  before : ∀ item ∈ items.take count, test item = true
  behind : ∀ item ∈ items.drop count, test item = false

/-- The test is passed by a front part of the list. -/
def PassesInFront (test : α → Bool) (items : List α) : Prop :=
  items.Pairwise fun first second => test second = true → test first = true

theorem holdsAt_eq (test : α → Bool) {index : Nat}
    (inside : index < items.length) :
    holdsAt test items index = test items[index] := by
  simp [holdsAt, inside]

theorem holdsInFront_holdsAt (front : PassesInFront test items) :
    HoldsInFront (holdsAt test items) 0 items.length := by
  intro first second _ ordered inside held
  rcases ordered.lt_or_eq with less | rfl
  · rw [holdsAt_eq test inside] at held
    rw [holdsAt_eq test (less.trans inside)]
    exact List.pairwise_iff_getElem.mp front first second _ _ less held
  · exact held

theorem IsBoundary.dividedAt
    (isBoundary : IsBoundary (holdsAt test items) 0 items.length count) :
    DividedAt test items count where
  count_le := isBoundary.le_high
  before := by
    intro item member
    obtain ⟨index, inside, rfl⟩ := List.mem_take_iff_getElem.mp member
    have less : index < items.length := by omega
    rw [← holdsAt_eq test less]
    exact isBoundary.before (Nat.zero_le index) (by omega)
  behind := by
    intro item member
    obtain ⟨index, inside, rfl⟩ := List.mem_drop_iff_getElem.mp member
    have less : count + index < items.length := by omega
    rw [← holdsAt_eq test less]
    exact isBoundary.behind (Nat.le_add_right count index) less

/-- A search by leaps counts the front part. -/
theorem dividedAt_leadingCount (direction : Direction)
    (front : PassesInFront test items) :
    DividedAt test items (leadingCount direction test items) := by
  have inFront := holdsInFront_holdsAt front
  apply IsBoundary.dividedAt
  unfold leadingCount
  split
  · next held =>
      have nonempty : 0 < items.length := by
        cases items with
        | nil => cases held
        | cons first rest => exact Nat.succ_pos _
      obtain ⟨lastHeld, ordered, bounded, missed⟩ :=
        stride_spec nonempty Nat.one_pos held
      generalize stride (holdsAt test items) items.length 0 1 = range at *
      have inRange := isBoundary_boundary direction ordered
        fun first second _ less below =>
          inFront first second (Nat.zero_le _) less (below.trans_le bounded)
      refine ⟨Nat.zero_le _, inRange.le_high.trans bounded, ?_, ?_⟩
      · intro index _ below
        rcases Nat.lt_or_ge range.1 index with above | atMost
        · exact inRange.before above below
        · exact inFront _ _ (Nat.zero_le _) atMost (by omega) lastHeld
      · intro index fromPlace below
        rcases Nat.lt_or_ge index range.2 with less | atLeast
        · exact inRange.behind fromPlace less
        · have highMissed := missed (by omega)
          refine Bool.eq_false_iff.mpr fun held => ?_
          rw [inFront _ _ (Nat.zero_le _) atLeast below held] at highMissed
          cases highMissed
  · next missed =>
      refine ⟨le_rfl, Nat.zero_le _, by omega, ?_⟩
      intro index _ below
      exact Bool.eq_false_iff.mpr fun held =>
        missed (inFront _ _ le_rfl (Nat.zero_le _) below held)

/-- In a sorted list, those that may stand in front of a thing are the first. -/
theorem IsSorted.passesInFront {item : α} (sorted : IsSorted less among items)
    (order : IsOrder less among) (itemAmong : among item) :
    PassesInFront (fun other => !less item other) items := by
  apply sorted.ordered.imp_of_mem
  intro first second firstMember secondMember ordered
  simp only [Bool.not_eq_true']
  exact order.trans (sorted.among first firstMember)
    (sorted.among second secondMember) itemAmong ordered

/-- In a sorted list, those that precede a thing are the first. -/
theorem IsSorted.precedesInFront {item : α} (sorted : IsSorted less among items)
    (order : IsOrder less among) (itemAmong : among item) :
    PassesInFront (fun other => less other item) items := by
  apply sorted.ordered.imp_of_mem
  intro first second firstMember secondMember ordered
  contrapose
  simp only [Bool.not_eq_true]
  intro behind
  exact order.trans itemAmong (sorted.among first firstMember)
    (sorted.among second secondMember) behind ordered

end Searching

end RationalSimplex.Sorting
