import RationalSimplex.Proofs.Sorting.Order
import RationalSimplex.Sorting.Merge

/-!
# Merging sorted runs

However a merging moves, by turns or by leaps, from the front or from the back,
it takes one first element after the other, and each of them may stand in front
of everything that remains.  What was taken is therefore sorted at all times,
and in the end the merged run is.  Merging from the back is merging the reversed
runs in the reversed order.
-/

namespace RationalSimplex.Sorting

namespace Merging

variable {α : Type} {wins : α → α → Bool} {among : α → Prop}
  {merging after : Merging α} {direction : Direction}

/-- First elements are taken, one of the moved run if it wins against the next
one of the kept run and one of the kept run otherwise. -/
inductive Takes (wins : α → α → Bool) : Merging α → Merging α → Prop where
  | none (merging : Merging α) : Takes wins merging merging
  | kept {first : α} {kept moved taken : List α} {after : Merging α} :
      (∀ next ∈ moved.head?, wins next first = false) →
      Takes wins ⟨kept, moved, first :: taken⟩ after →
      Takes wins ⟨first :: kept, moved, taken⟩ after
  | moved {next : α} {kept moved taken : List α} {after : Merging α} :
      (∀ first ∈ kept.head?, wins next first = true) →
      Takes wins ⟨kept, moved, next :: taken⟩ after →
      Takes wins ⟨kept, next :: moved, taken⟩ after

/-- Both runs are sorted behind what was taken, and the whole moved run wins
against the last element of the kept run. -/
structure IsSound (wins : α → α → Bool) (among : α → Prop)
    (merging : Merging α) : Prop where
  kept : IsSorted wins among (merging.taken.reverse ++ merging.kept)
  moved : IsSorted wins among (merging.taken.reverse ++ merging.moved)
  last : ∀ last ∈ merging.kept.getLast?, ∀ next ∈ merging.moved,
    wins next last = true

/-- How many elements remain to be taken. -/
def remaining (merging : Merging α) : Nat :=
  merging.kept.length + merging.moved.length

/-- All elements, those taken first. -/
def elements (merging : Merging α) : List α :=
  merging.taken.reverse ++ merging.kept ++ merging.moved

/-! ## What taking keeps -/

theorem Takes.trans {between : Merging α} (earlier : Takes wins merging between)
    (later : Takes wins between after) : Takes wins merging after := by
  induction earlier with
  | none => exact later
  | kept comes _ induction => exact .kept comes (induction later)
  | moved comes _ induction => exact .moved comes (induction later)

theorem Takes.remaining_le (takes : Takes wins merging after) :
    after.remaining ≤ merging.remaining := by
  induction takes with
  | none => exact le_rfl
  | kept _ _ induction =>
      simp only [remaining, List.length_cons] at *
      omega
  | moved _ _ induction =>
      simp only [remaining, List.length_cons] at *
      omega

theorem Takes.elements_perm (takes : Takes wins merging after) :
    after.elements.Perm merging.elements := by
  induction takes with
  | none => exact List.Perm.refl _
  | kept _ _ induction => simpa [elements] using induction
  | @moved next kept moved taken after _ _ induction =>
      refine induction.trans ?_
      simp only [elements, List.reverse_cons, List.append_assoc,
        List.singleton_append]
      exact List.perm_middle.symm.append_left taken.reverse

theorem IsSound.kept_sorted (sound : IsSound wins among merging) :
    IsSorted wins among merging.kept :=
  (isSorted_append_iff.mp sound.kept).2.1

theorem IsSound.moved_sorted (sound : IsSound wins among merging) :
    IsSorted wins among merging.moved :=
  (isSorted_append_iff.mp sound.moved).2.1

/-- Taking an element of the kept run that need not stand behind the moved
one keeps everything sorted. -/
theorem IsSound.take_kept {first : α} {kept moved taken : List α}
    (order : IsOrder wins among)
    (sound : IsSound wins among ⟨first :: kept, moved, taken⟩)
    (comes : ∀ next ∈ moved.head?, wins next first = false) :
    IsSound wins among ⟨kept, moved, first :: taken⟩ := by
  obtain ⟨firstAmong, _, _⟩ := isSorted_cons_iff.mp sound.kept_sorted
  have behind := (isSorted_append_iff.mp sound.kept).2.2
  refine ⟨?_, ?_, ?_⟩
  · simpa using sound.kept
  · simp only [List.reverse_cons, List.append_assoc, List.singleton_append]
    exact sound.moved.insert firstAmong
      (fun earlier member => behind earlier member first List.mem_cons_self)
      (sound.moved_sorted.notAfter_of_head order firstAmong comes)
  · intro last isLast
    apply sound.last last
    cases kept with
    | nil => cases isLast
    | cons second kept => simpa using isLast

theorem IsSound.take_moved {next : α} {kept moved taken : List α}
    (order : IsOrder wins among)
    (sound : IsSound wins among ⟨kept, next :: moved, taken⟩)
    (comes : ∀ first ∈ kept.head?, wins next first = true) :
    IsSound wins among ⟨kept, moved, next :: taken⟩ := by
  obtain ⟨nextAmong, _, _⟩ := isSorted_cons_iff.mp sound.moved_sorted
  have behind := (isSorted_append_iff.mp sound.moved).2.2
  have firstOfKept : ∀ first ∈ kept.head?, NotAfter wins next first := by
    intro first isFirst
    have member := List.mem_of_mem_head? isFirst
    exact order.asymm nextAmong (sound.kept_sorted.among first member)
      (comes first isFirst)
  refine ⟨?_, ?_, ?_⟩
  · simp only [List.reverse_cons, List.append_assoc, List.singleton_append]
    exact sound.kept.insert nextAmong
      (fun earlier member => behind earlier member next List.mem_cons_self)
      (sound.kept_sorted.notAfter_of_head order nextAmong firstOfKept)
  · simpa using sound.moved
  · exact fun last isLast other member =>
      sound.last last isLast other (List.mem_cons_of_mem _ member)

theorem Takes.isSound (takes : Takes wins merging after)
    (order : IsOrder wins among) (sound : IsSound wins among merging) :
    IsSound wins among after := by
  induction takes with
  | none => exact sound
  | kept comes _ induction => exact induction (sound.take_kept order comes)
  | moved comes _ induction => exact induction (sound.take_moved order comes)

/-! ## Turns and leaps -/

theorem takes_takeTurns (wins : α → α → Bool)
    (eagerness keptStreak movedStreak : Nat) (merging : Merging α) :
    Takes wins merging
      (takeTurns wins eagerness keptStreak movedStreak merging) := by
  fun_induction takeTurns wins eagerness keptStreak movedStreak merging with
  | case1 keptStreak movedStreak first second kept next moved taken won
      taken' enough =>
      exact .moved (by simpa using won) (.none _)
  | case2 keptStreak movedStreak first second kept next moved taken won
      taken' more induction =>
      exact .moved (by simpa using won) induction
  | case3 keptStreak movedStreak first second kept next moved taken lost
      taken' enough =>
      exact .kept (by simpa using lost) (.none _)
  | case4 keptStreak movedStreak first second kept next moved taken lost
      taken' more induction =>
      exact .kept (by simpa using lost) induction
  | case5 => exact .none _

theorem takes_takeKept {count : Nat}
    (comes : ∀ item ∈ merging.kept.take count, ∀ next ∈ merging.moved.head?,
      wins next item = false) :
    Takes wins merging (merging.takeKept count) := by
  obtain ⟨kept, moved, taken⟩ := merging
  induction count generalizing kept taken with
  | zero => exact .none _
  | succ count induction =>
      cases kept with
      | nil => exact .none _
      | cons first kept =>
          obtain ⟨firstComes, restComes⟩ := List.forall_mem_cons.mp comes
          refine .kept firstComes ?_
          simpa [takeKept] using induction kept (first :: taken) restComes

theorem takes_takeMoved {count : Nat}
    (comes : ∀ item ∈ merging.moved.take count, ∀ first ∈ merging.kept.head?,
      wins item first = true) :
    Takes wins merging (merging.takeMoved count) := by
  obtain ⟨kept, moved, taken⟩ := merging
  induction count generalizing moved taken with
  | zero => exact .none _
  | succ count induction =>
      cases moved with
      | nil => exact .none _
      | cons next moved =>
          obtain ⟨nextComes, restComes⟩ := List.forall_mem_cons.mp comes
          refine .moved nextComes ?_
          simpa [takeMoved] using induction moved (next :: taken) restComes

theorem takes_leapKept (direction : Direction) (order : IsOrder wins among)
    (sound : IsSound wins among merging) :
    Takes wins merging (leapKept direction wins merging).2 := by
  obtain ⟨kept, moved, taken⟩ := merging
  cases moved with
  | nil => exact .none _
  | cons next moved =>
      obtain ⟨nextAmong, _, _⟩ := isSorted_cons_iff.mp sound.moved_sorted
      have divided := dividedAt_leadingCount direction
        (sound.kept_sorted.passesInFront order nextAmong)
      simp only [leapKept]
      generalize leadingCount direction _ kept = count at *
      have leapt : Takes wins ⟨kept, next :: moved, taken⟩
          (takeKept ⟨kept, next :: moved, taken⟩ count) := by
        apply takes_takeKept
        intro item member other isNext
        obtain rfl := Option.some.inj isNext
        simpa using divided.before item member
      split
      · exact leapt
      · refine leapt.trans (takes_takeMoved ?_)
        intro item isNext first isFirst
        obtain rfl : item = next := by simpa [takeKept] using isNext
        have missed := divided.behind first (List.mem_of_mem_head? isFirst)
        simpa using missed

theorem takes_leapMoved (direction : Direction) (order : IsOrder wins among)
    (sound : IsSound wins among merging) :
    Takes wins merging (leapMoved direction wins merging).2 := by
  obtain ⟨kept, moved, taken⟩ := merging
  cases kept with
  | nil => exact .none _
  | cons next kept =>
      obtain ⟨nextAmong, _, _⟩ := isSorted_cons_iff.mp sound.kept_sorted
      have divided := dividedAt_leadingCount direction
        (sound.moved_sorted.precedesInFront order nextAmong)
      simp only [leapMoved]
      generalize leadingCount direction _ moved = count at *
      have leapt : Takes wins ⟨next :: kept, moved, taken⟩
          (takeMoved ⟨next :: kept, moved, taken⟩ count) := by
        apply takes_takeMoved
        intro item member other isNext
        obtain rfl := Option.some.inj isNext
        exact divided.before item member
      split
      · exact leapt
      · refine leapt.trans (takes_takeKept ?_)
        intro item isNext first isFirst
        obtain rfl : item = next := by simpa [takeMoved] using isNext
        exact divided.behind first (List.mem_of_mem_head? isFirst)

theorem takes_leapBoth (direction : Direction) (order : IsOrder wins among)
    (sound : IsSound wins among merging) :
    Takes wins merging (leapBoth direction wins merging).2 := by
  cases direction with
  | forward =>
      have first := takes_leapKept .forward order sound
      unfold leapBoth
      dsimp only
      split
      · exact first
      · exact first.trans
          (takes_leapMoved .forward order (first.isSound order sound))
  | backward =>
      have first := takes_leapMoved .backward order sound
      unfold leapBoth
      dsimp only
      split
      · exact first
      · exact first.trans
          (takes_leapKept .backward order (first.isSound order sound))

theorem takes_leapOn (direction : Direction) (order : IsOrder wins among)
    (limit eagerness : Nat) (sound : IsSound wins among merging) :
    Takes wins merging (leapOn direction wins limit eagerness merging).2 := by
  induction limit generalizing eagerness merging with
  | zero => exact .none _
  | succ limit induction =>
      have leapt := takes_leapBoth direction order sound
      unfold leapOn
      dsimp only
      split
      · exact leapt
      · split
        · exact leapt.trans (induction _ (leapt.isSound order sound))
        · exact leapt

/-! ## Whole merges -/

@[simp] theorem isSettled_iff :
    merging.isSettled ↔ merging.moved = [] ∨ merging.kept.length ≤ 1 := by
  simp [isSettled]

/-- A round of turns that leaves something to be compared has taken at least
one element. -/
theorem remaining_takeTurns_lt {eagerness keptStreak movedStreak : Nat} :
    ¬(takeTurns wins eagerness keptStreak movedStreak merging).isSettled →
      (takeTurns wins eagerness keptStreak movedStreak merging).remaining <
        merging.remaining := by
  fun_cases takeTurns wins eagerness keptStreak movedStreak merging with
  | case1 first second kept next moved taken won later enough =>
      simp [remaining, later]
  | case2 first second kept next moved taken won later more =>
      intro _
      refine (takes_takeTurns _ _ _ _ _).remaining_le.trans_lt ?_
      simp [remaining, later]
  | case3 first second kept next moved taken lost later enough =>
      simp [remaining, later]
  | case4 first second kept next moved taken lost later more =>
      intro _
      refine (takes_takeTurns _ _ _ _ _).remaining_le.trans_lt ?_
      simp [remaining, later]
  | case5 settled unmatched =>
      intro unsettled
      obtain ⟨kept, moved, taken⟩ := merging
      apply absurd (isSettled_iff.mpr _) unsettled
      rcases kept with _ | ⟨first, _ | ⟨second, kept⟩⟩
      · exact .inr (Nat.zero_le 1)
      · exact .inr le_rfl
      · cases moved with
        | nil => exact .inl rfl
        | cons next moved => exact absurd rfl (unmatched _ _ _ _ _ _)

/-- Rounds go on until nothing remains to be compared. -/
theorem proceed_settles (direction : Direction) (order : IsOrder wins among)
    {limit : Nat} (eagerness : Nat) (enough : merging.remaining ≤ limit)
    (sound : IsSound wins among merging) :
    Takes wins merging (proceed direction wins limit eagerness merging).2 ∧
      (proceed direction wins limit eagerness merging).2.isSettled := by
  induction limit generalizing eagerness merging with
  | zero =>
      refine ⟨.none _, isSettled_iff.mpr (.inr ?_)⟩
      simp only [remaining] at enough
      simp only [proceed]
      omega
  | succ limit induction =>
      have turned := takes_takeTurns wins eagerness 0 0 merging
      have turnedSound := turned.isSound order sound
      unfold proceed
      dsimp only
      split
      · next settled => exact ⟨turned, settled⟩
      · next unsettled =>
          have leapt := takes_leapOn direction order (limit + 1)
            (eagerness + 1) turnedSound
          have leaptSound := leapt.isSound order turnedSound
          have both := turned.trans leapt
          have less := remaining_takeTurns_lt unsettled
          have atMost := leapt.remaining_le
          split
          · next settled => exact ⟨both, settled⟩
          · obtain ⟨taken, settled⟩ := induction _ (by omega) leaptSound
            exact ⟨both.trans taken, settled⟩

/-- When nothing remains to be compared, the rest follows in order. -/
theorem IsSound.finish_sorted (order : IsOrder wins among)
    (sound : IsSound wins among merging) (settled : merging.isSettled) :
    IsSorted wins among merging.finish ∧
      merging.finish.Perm merging.elements := by
  obtain ⟨kept, moved, taken⟩ := merging
  rcases kept with _ | ⟨first, _ | ⟨second, kept⟩⟩
  · simp only [finish, elements, List.append_nil]
    exact ⟨sound.moved, List.Perm.refl _⟩
  · obtain ⟨firstAmong, _⟩ := List.forall_mem_cons.mp sound.kept_sorted.among
    have behind := (isSorted_append_iff.mp sound.kept).2.2
    constructor
    · refine isSorted_append_iff.mpr ⟨sound.moved,
        ⟨sound.kept_sorted.among, List.pairwise_singleton _ _⟩, ?_⟩
      intro earlier member last isLast
      obtain rfl := List.mem_singleton.mp isLast
      rcases List.mem_append.mp member with before | next
      · exact behind earlier before last List.mem_cons_self
      · exact order.asymm (sound.moved_sorted.among earlier next) firstAmong
          (sound.last last rfl earlier next)
    · simp only [finish, elements, List.append_assoc]
      exact List.perm_append_comm.append_left taken.reverse
  · obtain rfl : moved = [] := by
      simpa using settled
    simp only [finish, elements, List.append_nil]
    exact ⟨sound.kept, List.Perm.refl _⟩

/-- Sorted runs are merged into a sorted one if the first element of the moved
run comes first and the last element of the kept run comes last. -/
theorem run_sorted {kept moved : List α} (direction : Direction)
    (order : IsOrder wins among) (eagerness : Nat)
    (keptSorted : IsSorted wins among kept)
    (movedSorted : IsSorted wins among moved)
    (first : ∀ next ∈ moved.head?, ∀ first ∈ kept.head?,
      wins next first = true)
    (last : ∀ last ∈ kept.getLast?, ∀ next ∈ moved, wins next last = true) :
    IsSorted wins among (run direction wins eagerness kept moved).2 ∧
      (run direction wins eagerness kept moved).2.Perm (kept ++ moved) := by
  have begun : IsSound wins among ⟨kept, moved, []⟩ :=
    ⟨keptSorted, movedSorted, last⟩
  have started : Takes wins ⟨kept, moved, []⟩
      (takeMoved ⟨kept, moved, []⟩ 1) := by
    apply takes_takeMoved
    intro next member
    apply first next
    cases moved with
    | nil => cases member
    | cons head moved => simpa [eq_comm] using member
  have sound := started.isSound order begun
  have enough := started.remaining_le
  obtain ⟨taken, settled⟩ :=
    proceed_settles direction order eagerness enough sound
  have ended := taken.isSound order sound
  obtain ⟨sorted, perm⟩ := ended.finish_sorted order settled
  exact ⟨sorted, perm.trans (started.trans taken).elements_perm⟩

end Merging

variable {α : Type} {less : α → α → Bool} {among : α → Prop}
  {first second front left right back middle : List α}

/-- From whichever side two runs are merged, the result is sorted. -/
theorem run_either_sorted (order : IsOrder less among) (eagerness : Nat)
    (leftSorted : IsSorted less among left)
    (rightSorted : IsSorted less among right)
    (headFirst : ∀ head ∈ right.head?, ∀ item ∈ left, less head item = true)
    (lastLast : ∀ last ∈ left.getLast?, ∀ item ∈ right,
      less item last = true) :
    let backward := Merging.run .backward
      (fun moved kept => less kept moved) eagerness right.reverse left.reverse
    let merged :=
      if left.length ≤ right.length then
        Merging.run .forward less eagerness left right
      else
        (backward.1, backward.2.reverse)
    IsSorted less among merged.2 ∧ merged.2.Perm (left ++ right) := by
  dsimp only
  split
  · refine Merging.run_sorted .forward order eagerness leftSorted rightSorted
      ?_ lastLast
    exact fun head isHead item isFirst =>
      headFirst head isHead item (List.mem_of_mem_head? isFirst)
  · obtain ⟨sorted, perm⟩ := Merging.run_sorted .backward order.flip eagerness
      (isSorted_reverse_iff.mpr rightSorted)
      (isSorted_reverse_iff.mpr leftSorted)
      (fun last isLast item isFirst => by
        rw [List.head?_reverse] at isLast isFirst
        exact lastLast last isLast item (List.mem_of_getLast? isFirst))
      (fun head isHead item member => by
        rw [List.getLast?_reverse] at isHead
        exact headFirst head isHead item (List.mem_reverse.mp member))
    constructor
    · rw [← isSorted_reverse_iff, List.reverse_reverse]
      exact sorted
    · refine (List.reverse_perm _).trans (perm.trans ?_)
      rw [← List.reverse_append]
      exact List.reverse_perm _

/-- What is in its place at both ends stays there when the rest is merged. -/
theorem isSorted_around_middle
    (frontSorted : IsSorted less among (front ++ left))
    (backSorted : IsSorted less among (right ++ back))
    (across : ∀ earlier ∈ front, ∀ later ∈ right ++ back,
      NotAfter less earlier later)
    (behind : ∀ earlier ∈ left, ∀ later ∈ back, NotAfter less earlier later)
    (middleSorted : IsSorted less among middle)
    (perm : middle.Perm (left ++ right)) :
    IsSorted less among (front ++ middle ++ back) ∧
      (front ++ middle ++ back).Perm ((front ++ left) ++ (right ++ back)) := by
  obtain ⟨onlyFront, _, frontLeft⟩ := isSorted_append_iff.mp frontSorted
  obtain ⟨_, onlyBack, rightBack⟩ := isSorted_append_iff.mp backSorted
  constructor
  · rw [List.append_assoc, isSorted_append_iff, isSorted_append_iff]
    refine ⟨onlyFront, ⟨middleSorted, onlyBack, ?_⟩, ?_⟩
    · intro earlier member later inBack
      rcases List.mem_append.mp (perm.mem_iff.mp member) with inLeft | inRight
      · exact behind earlier inLeft later inBack
      · exact rightBack earlier inRight later inBack
    · intro earlier inFront later member
      rcases List.mem_append.mp member with inMiddle | inBack
      · rcases List.mem_append.mp (perm.mem_iff.mp inMiddle) with
          inLeft | inRight
        · exact frontLeft earlier inFront later inLeft
        · exact across earlier inFront later (List.mem_append_left _ inRight)
      · exact across earlier inFront later (List.mem_append_right _ inBack)
  · simpa using (perm.append_right back).append_left front

/-- What may stand in front of the head of the second run is in its place, and
the head precedes the rest of the first run. -/
theorem inPlace_front {head : α} {rest : List α} (order : IsOrder less among)
    (firstSorted : IsSorted less among first)
    (secondSorted : IsSorted less among (head :: rest)) :
    let count := leadingCount .forward (fun item => !less head item) first
    (∀ earlier ∈ first.take count, ∀ later ∈ head :: rest,
        NotAfter less earlier later) ∧
      ∀ item ∈ first.drop count, less head item = true := by
  obtain ⟨headAmong, _, _⟩ := isSorted_cons_iff.mp secondSorted
  have divided := dividedAt_leadingCount .forward
    (firstSorted.passesInFront order headAmong)
  constructor
  · intro earlier member
    apply secondSorted.notAfter_of_head order
      (firstSorted.among earlier (List.mem_of_mem_take member))
    intro other isHead
    obtain rfl := Option.some.inj isHead
    simpa [NotAfter] using divided.before earlier member
  · intro item member
    simpa using divided.behind item member

/-- What the last thing of a run may stand in front of is in its place, and
the rest of the second run precedes that last thing. -/
theorem inPlace_back {last : α} (order : IsOrder less among)
    (leftSorted : IsSorted less among left) (isLast : left.getLast? = some last)
    (secondSorted : IsSorted less among second) :
    let count := second.length -
      leadingCount .backward (fun item => !less item last) second.reverse
    (∀ item ∈ second.take count, less item last = true) ∧
      ∀ earlier ∈ left, ∀ later ∈ second.drop count,
        NotAfter less earlier later := by
  have lastAmong := leftSorted.among last (List.mem_of_getLast? isLast)
  have divided := dividedAt_leadingCount .backward
    ((isSorted_reverse_iff.mpr secondSorted).passesInFront order.flip lastAmong)
  constructor
  · intro item member
    have missed := divided.behind item (by
      rw [List.drop_reverse]
      exact List.mem_reverse.mpr member)
    simpa using missed
  · intro earlier inLeft later member
    have found := divided.before later (by
      rw [List.take_reverse]
      exact List.mem_reverse.mpr member)
    -- The last thing of the run stands between the two.
    exact order.trans (leftSorted.among earlier inLeft) lastAmong
      (secondSorted.among later (List.mem_of_mem_drop member))
      (leftSorted.notAfter_last order isLast earlier inLeft)
      (by simpa [NotAfter] using found)

/-- Runs with everything in its place already are sorted as they stand. -/
theorem isSorted_inPlace (firstSorted : IsSorted less among (front ++ left))
    (secondSorted : IsSorted less among second)
    (across : ∀ earlier ∈ front, ∀ later ∈ second, NotAfter less earlier later)
    (behind : ∀ earlier ∈ left, ∀ later ∈ second,
      NotAfter less earlier later) :
    IsSorted less among ((front ++ left) ++ second) :=
  isSorted_append_iff.mpr
    ⟨firstSorted, secondSorted, List.forall_mem_append.mpr ⟨across, behind⟩⟩

/-- Two sorted runs are merged into a sorted one. -/
theorem mergeRuns_sorted (order : IsOrder less among) (eagerness : Nat)
    (firstSorted : IsSorted less among first)
    (secondSorted : IsSorted less among second) :
    IsSorted less among (mergeRuns less eagerness first second).2 ∧
      (mergeRuns less eagerness first second).2.Perm (first ++ second) := by
  cases second with
  | nil =>
      simp only [mergeRuns, List.drop_length, List.getLast?_nil,
        List.append_nil]
      exact ⟨firstSorted, List.Perm.refl _⟩
  | cons head rest =>
      obtain ⟨across, behindHead⟩ :=
        inPlace_front order firstSorted secondSorted
      unfold mergeRuns
      dsimp only at across behindHead ⊢
      generalize leadingCount .forward _ first = inPlace at *
      have parts := List.take_append_drop inPlace first
      generalize first.take inPlace = front at *
      generalize first.drop inPlace = left at *
      subst parts
      have leftSorted := (isSorted_append_iff.mp firstSorted).2.1
      split
      · next noLast =>
          obtain rfl := List.getLast?_eq_none_iff.mp noLast
          exact ⟨isSorted_inPlace firstSorted secondSorted across
            (List.forall_mem_nil _), List.Perm.refl _⟩
      · next last isLast =>
          obtain ⟨beforeLast, behind⟩ :=
            inPlace_back order leftSorted isLast secondSorted
          generalize (head :: rest).length - _ = count at *
          have parts := List.take_append_drop count (head :: rest)
          generalize (head :: rest).drop count = back at *
          generalize (head :: rest).take count = right at *
          cases right with
          | nil =>
              obtain rfl : back = head :: rest := parts
              exact ⟨isSorted_inPlace firstSorted secondSorted across behind,
                List.Perm.refl _⟩
          | cons other right =>
              obtain rfl : other = head := (List.cons.inj parts).1
              rw [← parts] at secondSorted across ⊢
              obtain ⟨rightSorted, _, _⟩ := isSorted_append_iff.mp secondSorted
              obtain ⟨middleSorted, middlePerm⟩ := run_either_sorted order
                eagerness leftSorted rightSorted
                (fun first isFirst => by
                  obtain rfl := Option.some.inj isFirst
                  exact behindHead)
                (fun other isOther => by
                  obtain rfl := Option.some.inj (isLast.symm.trans isOther)
                  exact beforeLast)
              rw [List.drop_left, if_neg (by simp)]
              exact isSorted_around_middle firstSorted secondSorted across
                behind middleSorted middlePerm

end RationalSimplex.Sorting
