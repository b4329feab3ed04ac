import RationalSimplex.Proofs.Sorting.Order

/-!
# Sorted runs

A list is cut into runs, each of which is sorted, and together they have the
members of the list.  A natural run is a chain of neighbours in order, and the
order carries over to things that are not neighbours.
-/

namespace RationalSimplex.Sorting

variable {α : Type} {less : α → α → Bool} {among : α → Prop}
  {items run added : List α} {item : α}

/-! ## Natural runs -/

@[simp]
theorem chain_append (linked : α → α → Bool) (before : α) (items : List α) :
    (chain linked before items).1 ++ (chain linked before items).2 = items := by
  induction items generalizing before with
  | nil => rfl
  | cons next rest induction =>
      unfold chain
      split
      · exact congrArg (next :: ·) (induction next)
      · rfl

theorem mem_of_mem_chain {linked : α → α → Bool} {before : α}
    (member : item ∈ (chain linked before items).1) : item ∈ items := by
  rw [← chain_append linked before items]
  exact List.mem_append_left _ member

/-- Where links can be composed, every two things along a chain are linked. -/
theorem pairwise_chain (linked : α → α → Bool) (before : α)
    (members : ∀ item ∈ before :: items, among item)
    (compose : ∀ {first second third : α}, among first → among second →
      among third → linked first second = true → linked second third = true →
        linked first third = true) :
    (before :: (chain linked before items).1).Pairwise fun first second =>
      linked first second = true := by
  induction items generalizing before with
  | nil => exact List.pairwise_singleton _ _
  | cons next rest induction =>
      obtain ⟨beforeAmong, restAmong⟩ := List.forall_mem_cons.mp members
      have tail := induction next restAmong
      unfold chain
      split
      · next link =>
          refine List.pairwise_cons.mpr ⟨?_, tail⟩
          intro other member
          rcases List.mem_cons.mp member with rfl | later
          · exact link
          · have otherAmong : among other :=
              restAmong other (List.mem_cons_of_mem _ (mem_of_mem_chain later))
            exact compose beforeAmong (restAmong next List.mem_cons_self)
              otherAmong link (List.rel_of_pairwise_cons tail later)
      · exact List.pairwise_singleton _ _

/-- A sorted run and a rest have the members of a list between them. -/
structure IsRun (less : α → α → Bool) (among : α → Prop) (items : List α)
    (cut : List α × List α) : Prop where
  sorted : IsSorted less among cut.1
  perm : (cut.1 ++ cut.2).Perm items
  ne_nil : items ≠ [] → cut.1 ≠ []

theorem isRun_naturalRun (order : IsOrder less among)
    (members : ∀ item ∈ items, among item) :
    IsRun less among items (naturalRun less items) := by
  have chainAmong : ∀ (linked : α → α → Bool) {first : α} {rest : List α},
      items = first :: rest →
        ∀ item ∈ first :: (chain linked first rest).1, among item := by
    rintro linked first rest rfl item member
    rcases List.mem_cons.mp member with rfl | later
    · exact members item List.mem_cons_self
    · exact members item (List.mem_cons_of_mem _ (mem_of_mem_chain later))
  fun_cases naturalRun less items with
  | case1 => exact ⟨.nil, List.Perm.refl _, fun nonempty => nonempty⟩
  | case2 only =>
      exact ⟨⟨members, List.pairwise_singleton _ _⟩, List.Perm.refl _,
        fun _ => List.cons_ne_nil _ _⟩
  | case3 first second rest descends run =>
      let descending (before next : α) : Bool := less next before
      have parts := chain_append descending first (second :: rest)
      have linked := pairwise_chain descending first members
        fun firstAmong secondAmong thirdAmong earlier later =>
          order.precedes_trans thirdAmong secondAmong firstAmong later earlier
      have inside := chainAmong descending rfl
      refine ⟨⟨?_, ?_⟩, ?_, by simp⟩
      · exact fun item member => inside item (List.mem_reverse.mp member)
      · refine List.pairwise_reverse.mpr (linked.imp_of_mem ?_)
        intro earlier later earlierMember laterMember precedes
        exact order.asymm (inside later laterMember)
          (inside earlier earlierMember) precedes
      · refine ((List.reverse_perm _).append_right _).trans ?_
        rw [List.cons_append, parts]
  | case4 first second rest ascends run =>
      let ascending (before next : α) : Bool := !less next before
      have parts := chain_append ascending first (second :: rest)
      have linked := pairwise_chain ascending first members
        fun firstAmong secondAmong thirdAmong earlier later => by
          simp only [ascending, Bool.not_eq_true'] at earlier later ⊢
          exact order.trans firstAmong secondAmong thirdAmong earlier later
      refine ⟨⟨chainAmong ascending rfl, linked.imp ?_⟩, ?_, by simp⟩
      · intro earlier later link
        simpa [ascending, NotAfter] using link
      · rw [List.cons_append, parts]

/-! ## Filled runs -/

theorem insertIdx_eq (item : α) {place : Nat} (inside : place ≤ run.length) :
    run.insertIdx place item = run.take place ++ item :: run.drop place := by
  induction place generalizing run with
  | zero => rfl
  | succ place induction =>
      cases run with
      | nil => cases inside
      | cons first rest =>
          rw [List.insertIdx_succ_cons,
            induction (Nat.le_of_succ_le_succ inside)]
          rfl

/-- A thing is inserted where the run remains sorted. -/
theorem insertInOrder_sorted (order : IsOrder less among)
    (sorted : IsSorted less among run) (itemAmong : among item) :
    IsSorted less among (insertInOrder less run item) ∧
      (insertInOrder less run item).Perm (run ++ [item]) := by
  have divided := (isBoundary_boundary .forward (Nat.zero_le _)
    (holdsInFront_holdsAt (sorted.passesInFront order itemAmong))).dividedAt
  unfold insertInOrder
  rw [insertIdx_eq item divided.count_le]
  generalize boundary .forward _ 0 run.length = place at *
  constructor
  · rw [← List.take_append_drop place run] at sorted
    refine sorted.insert itemAmong ?_ ?_
    · intro first member
      simpa [NotAfter] using divided.before first member
    · intro second member
      have precedes : less item second = true := by
        simpa using divided.behind second member
      have secondAmong := sorted.among second (List.mem_append_right _ member)
      exact order.asymm itemAmong secondAmong precedes
  · refine List.perm_middle.trans ?_
    rw [List.take_append_drop]
    exact (List.perm_append_singleton item run).symm

theorem foldl_insertInOrder_sorted (order : IsOrder less among)
    (sorted : IsSorted less among run)
    (addedAmong : ∀ item ∈ added, among item) :
    IsSorted less among (added.foldl (insertInOrder less) run) ∧
      (added.foldl (insertInOrder less) run).Perm (run ++ added) := by
  induction added generalizing run with
  | nil =>
      rw [List.append_nil]
      exact ⟨sorted, List.Perm.refl _⟩
  | cons item added induction =>
      obtain ⟨itemAmong, restAmong⟩ := List.forall_mem_cons.mp addedAmong
      obtain ⟨inserted, perm⟩ := insertInOrder_sorted order sorted itemAmong
      obtain ⟨folded, foldedPerm⟩ := induction inserted restAmong
      refine ⟨folded, foldedPerm.trans ?_⟩
      simpa using perm.append_right added

theorem isRun_filledRun (order : IsOrder less among) (least : Nat)
    (members : ∀ item ∈ items, among item) :
    IsRun less among items (filledRun less least items) := by
  have natural := isRun_naturalRun order members
  unfold filledRun
  generalize naturalRun less items = cut at *
  generalize least - cut.1.length = missing
  have restAmong : ∀ item ∈ cut.2, among item := fun item member =>
    members item (natural.perm.mem_iff.mp (List.mem_append_right _ member))
  obtain ⟨sorted, perm⟩ := foldl_insertInOrder_sorted order natural.sorted
    fun item member => restAmong item (List.mem_of_mem_take member)
  refine ⟨sorted, ?_, ?_⟩
  · refine (perm.append_right _).trans ?_
    rw [List.append_assoc, List.take_append_drop]
    exact natural.perm
  · intro nonempty empty
    dsimp only at empty
    rw [empty] at perm
    have none := perm.nil_eq
    simp [natural.ne_nil nonempty] at none

/-- A list is cut into sorted runs, of which there are no more than things. -/
theorem runsUpTo_sorted (order : IsOrder less among) (least : Nat)
    {limit : Nat} (enough : items.length ≤ limit)
    (members : ∀ item ∈ items, among item) :
    (∀ run ∈ runsUpTo less least limit items, IsSorted less among run) ∧
      (runsUpTo less least limit items).flatten.Perm items ∧
      (runsUpTo less least limit items).length ≤ limit := by
  fun_induction runsUpTo less least limit items with
  | case1 items =>
      obtain rfl := List.eq_nil_of_length_eq_zero (Nat.le_zero.mp enough)
      exact ⟨List.forall_mem_nil _, List.Perm.refl _, le_rfl⟩
  | case2 limit =>
      exact ⟨List.forall_mem_nil _, List.Perm.refl _, Nat.zero_le _⟩
  | case3 limit items nonempty run induction =>
      have isRun : IsRun less among items run :=
        isRun_filledRun order least members
      have taken := List.length_pos_iff.mpr (isRun.ne_nil nonempty)
      have counted := isRun.perm.length_eq
      rw [List.length_append] at counted
      obtain ⟨sorted, perm, bounded⟩ := induction (by omega)
        fun item member =>
          members item (isRun.perm.mem_iff.mp (List.mem_append_right _ member))
      refine ⟨List.forall_mem_cons.mpr ⟨isRun.sorted, sorted⟩, ?_,
        Nat.succ_le_succ bounded⟩
      exact (perm.append_left run.1).trans isRun.perm

end RationalSimplex.Sorting
