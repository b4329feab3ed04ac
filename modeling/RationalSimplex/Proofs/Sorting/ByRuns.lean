import RationalSimplex.Proofs.Sorting.Merge
import RationalSimplex.Proofs.Sorting.Runs
import RationalSimplex.Sorting.ByRuns

/-!
# Sorting by runs sorts

Pending runs stay sorted and keep their members whichever neighbours are merged
first.  Where precedence is an order on the members of a list, the list is
therefore sorted in the end.  Where things that precede each other in neither
way are the same, nothing but the sorted list can come out.
-/

namespace RationalSimplex.Sorting

variable {α : Type} {less : α → α → Bool} {among : α → Prop}

namespace Pending

/-- The things in pending runs, which stand the last one first. -/
def elements (placed : List (PlacedRun α)) : List α :=
  (placed.map (·.items)).reverse.flatten

/-- Pending runs are sorted and have the members of a list between them. -/
structure Holds (less : α → α → Bool) (among : α → Prop) (items : List α)
    (placed : List (PlacedRun α)) : Prop where
  sorted : ∀ run ∈ placed, IsSorted less among run.items
  perm : (elements placed).Perm items

variable {items run : List α} {placed rest : List (PlacedRun α)}
  {first second last : PlacedRun α}

@[simp]
theorem elements_nil : elements ([] : List (PlacedRun α)) = [] :=
  rfl

@[simp]
theorem elements_cons (last : PlacedRun α) (placed : List (PlacedRun α)) :
    elements (last :: placed) = elements placed ++ last.items := by
  simp [elements]

@[simp]
theorem elements_append (front rest : List (PlacedRun α)) :
    elements (front ++ rest) = elements rest ++ elements front := by
  simp [elements]

/-! ## Merging neighbours -/

/-- Merging two neighbours keeps what the runs hold. -/
theorem Holds.join (front : List (PlacedRun α))
    (order : IsOrder less among) (eagerness : Nat)
    (holds : Holds less among items (front ++ second :: first :: rest)) :
    Holds less among items
      (front ++ (Pending.join less eagerness first second).2 :: rest) := by
  have frontSorted := fun run member =>
    holds.sorted run (List.mem_append_left _ member)
  obtain ⟨secondSorted, firstSorted, restSorted⟩ := by
    simpa only [List.forall_mem_cons] using fun run member =>
      holds.sorted run (List.mem_append_right front member)
  obtain ⟨sorted, perm⟩ :=
    mergeRuns_sorted order eagerness firstSorted secondSorted
  constructor
  · intro run member
    rcases List.mem_append.mp member with inFront | behind
    · exact frontSorted run inFront
    · rcases List.mem_cons.mp behind with rfl | inRest
      · exact sorted
      · exact restSorted run inRest
  · refine List.Perm.trans ?_ holds.perm
    simp only [elements_append, elements_cons, List.append_assoc]
    refine List.Perm.append_left _ ?_
    rw [← List.append_assoc]
    exact perm.append_right _

theorem mergeDeeper_holds (order : IsOrder less among) (depth eagerness : Nat)
    (holds : Holds less among items (last :: rest)) :
    Holds less among items (mergeDeeper less depth eagerness last rest).placed ∧
      (mergeDeeper less depth eagerness last rest).placed.length ≤
        rest.length + 1 := by
  induction rest generalizing last eagerness with
  | nil => exact ⟨holds, le_rfl⟩
  | cons before rest induction =>
      unfold mergeDeeper
      split
      · have joined := Holds.join [] order eagerness holds
        obtain ⟨merged, bounded⟩ := induction _ joined
        exact ⟨merged, bounded.trans (Nat.le_succ _)⟩
      · exact ⟨holds, le_rfl⟩

theorem markLast_holds (depth : Nat) (holds : Holds less among items placed) :
    Holds less among items (markLast depth placed) ∧
      (markLast depth placed).length = placed.length := by
  cases placed with
  | nil => exact ⟨holds, rfl⟩
  | cons last rest =>
      refine ⟨⟨?_, ?_⟩, rfl⟩
      · simpa [markLast] using holds.sorted
      · simpa [markLast] using holds.perm

/-- One more run is added behind what the pending runs hold. -/
theorem add_holds (order : IsOrder less among) (size : Nat)
    {pending : Pending α} (holds : Holds less among items pending.placed)
    (sorted : IsSorted less among run) :
    Holds less among (items ++ run) (add less size pending run).placed ∧
      (add less size pending run).placed.length ≤
        pending.placed.length + 1 := by
  unfold add
  split
  · next none =>
      rw [none] at holds ⊢
      have empty : items = [] := holds.perm.symm.eq_nil
      refine ⟨⟨?_, ?_⟩, le_rfl⟩
      · simpa using sorted
      · simp [empty]
  · next last rest found =>
      rw [found] at holds ⊢
      obtain ⟨merged, bounded⟩ := mergeDeeper_holds order
        (boundaryDepth size last.start last.items.length run.length)
        pending.eagerness holds
      obtain ⟨marked, same⟩ := markLast_holds
        (boundaryDepth size last.start last.items.length run.length) merged
      refine ⟨⟨?_, ?_⟩, ?_⟩
      · exact List.forall_mem_cons.mpr ⟨sorted, marked.sorted⟩
      · rw [elements_cons]
        exact marked.perm.append_right run
      · rw [List.length_cons, same]
        exact Nat.succ_le_succ bounded

theorem foldl_add_holds (order : IsOrder less among) (size : Nat)
    {runs : List (List α)} (pending : Pending α)
    (holds : Holds less among items pending.placed)
    (sorted : ∀ run ∈ runs, IsSorted less among run) :
    Holds less among (items ++ runs.flatten)
        (runs.foldl (add less size) pending).placed ∧
      (runs.foldl (add less size) pending).placed.length ≤
        pending.placed.length + runs.length := by
  induction runs generalizing items pending with
  | nil =>
      rw [List.flatten_nil, List.append_nil]
      exact ⟨holds, le_rfl⟩
  | cons run runs induction =>
      obtain ⟨runSorted, restSorted⟩ := List.forall_mem_cons.mp sorted
      obtain ⟨added, bounded⟩ := add_holds order size holds runSorted
      obtain ⟨folded, counted⟩ := induction _ added restSorted
      refine ⟨?_, ?_⟩
      · simpa using folded
      · rw [List.foldl_cons, List.length_cons]
        omega

/-- Merging goes on until a single run is left. -/
theorem mergeAll_sorted (order : IsOrder less among) {limit : Nat}
    (eagerness : Nat) (enough : placed.length ≤ limit + 2)
    (holds : Holds less among items placed) :
    IsSorted less among (mergeAll less limit eagerness placed) ∧
      (mergeAll less limit eagerness placed).Perm items := by
  fun_induction mergeAll less limit eagerness placed with
  | case1 eagerness limit last middle first rest shorter joined induction =>
      exact induction (by simpa using enough)
        (Holds.join [last] order eagerness holds)
  | case2 eagerness limit last middle first rest longer joined induction =>
      exact induction (by simpa using enough)
        (Holds.join [] order eagerness holds)
  | case3 limit eagerness last first =>
      have joined := Holds.join [] order eagerness holds
      have perm := joined.perm
      simp only [List.nil_append, elements_cons, elements_nil] at perm
      exact ⟨joined.sorted _ List.mem_cons_self, perm⟩
  | case4 limit eagerness placed notTwo notMany =>
      rcases placed with _ | ⟨last, _ | ⟨first, _ | ⟨earlier, rest⟩⟩⟩
      · exact ⟨.nil, holds.perm⟩
      · have perm := holds.perm
        simp only [elements_cons, elements_nil, List.nil_append] at perm
        simpa using ⟨holds.sorted last List.mem_cons_self, perm⟩
      · exact (notTwo last first rfl).elim
      · cases limit with
        | zero => simp at enough
        | succ limit => exact (notMany _ _ _ _ _ rfl rfl).elim

end Pending

/-- A list on whose members precedence is an order is sorted, and keeps its
members. -/
theorem sortByRuns_sorted {items : List α} (order : IsOrder less (· ∈ items)) :
    (sortByRuns less items).Pairwise (NotAfter less) ∧
      (sortByRuns less items).Perm items := by
  obtain ⟨sorted, perm, few⟩ := runsUpTo_sorted order
    (leastRunLength items.length 0) le_rfl fun item member => member
  have none : Pending.Holds less (· ∈ items) [] [] :=
    ⟨List.forall_mem_nil _, List.Perm.refl _⟩
  obtain ⟨holds, counted⟩ := Pending.foldl_add_holds order items.length
    ⟨Merging.leastLeap, []⟩ none sorted
  have enough := counted.trans (Nat.add_le_add_left few 0)
  obtain ⟨merged, all⟩ := Pending.mergeAll_sorted order _
    (by simpa using enough.trans (Nat.le_add_right _ 2)) holds
  exact ⟨merged.ordered, all.trans perm⟩

end RationalSimplex.Sorting
