import Mathlib.Data.List.Forall2

/-!
# Calculations that succeed

A calculation over a list succeeds when it succeeds at every item.  Its result
is then the one that the pure functions on lists give, so that later proofs
need not look into the calculation again.  A fold succeeds when every step
does and preserves what the next ones need.
-/

namespace RationalSimplex

variable {α β ε : Type}

@[simp]
theorem ok_bind (value : α) (next : α → Except ε β) :
    Except.ok value >>= next = next value :=
  rfl

@[simp]
theorem error_bind (fault : ε) (next : α → Except ε β) :
    Except.error fault >>= next = .error fault :=
  rfl

@[simp]
theorem pure_eq_ok (value : α) : (pure value : Except ε α) = .ok value :=
  rfl

theorem bind_eq_ok_iff {calculation : Except ε α} {next : α → Except ε β}
    {result : β} :
    calculation >>= next = .ok result ↔
      ∃ value, calculation = .ok value ∧ next value = .ok result := by
  cases calculation with
  | error fault => simp
  | ok value => simp

theorem bind_eq_error_iff {calculation : Except ε α} {next : α → Except ε β}
    {fault : ε} :
    calculation >>= next = .error fault ↔
      calculation = .error fault ∨
        ∃ value, calculation = .ok value ∧ next value = .error fault := by
  cases calculation with
  | error other => simp
  | ok value => simp

@[simp] theorem mapError_ok (value : α) (translate : ε → β) :
    (Except.ok value : Except ε α).mapError translate = .ok value :=
  rfl

@[simp] theorem mapError_error (fault : ε) (translate : ε → β) :
    (Except.error fault : Except ε α).mapError translate =
      .error (translate fault) :=
  rfl

theorem mapError_eq_ok_iff {calculation : Except ε α}
    {translate : ε → β} {result : α} :
    calculation.mapError translate = .ok result ↔ calculation = .ok result := by
  cases calculation with
  | error fault => simp
  | ok value => simp

theorem mapError_eq_error_iff {ε' : Type} {calculation : Except ε α}
    {translate : ε → ε'} {fault : ε'} :
    calculation.mapError translate = .error fault ↔
      ∃ reason, calculation = .error reason ∧ translate reason = fault := by
  cases calculation with
  | error reason => simp
  | ok value => simp

theorem toOption_eq_some_iff {calculation : Except ε α} {result : α} :
    calculation.toOption = some result ↔ calculation = .ok result := by
  cases calculation with
  | error fault => simp [Except.toOption]
  | ok value => simp [Except.toOption]

theorem ne_error_of_eq_ok {calculation : Except ε α} {result : α}
    (found : calculation = .ok result) (fault : ε) :
    calculation ≠ .error fault := by
  rw [found]
  exact fun failed => nomatch failed

/-- What is seen of a result is seen of a calculation that succeeds. -/
theorem exists_ok_of_map_toOption {calculation : Except ε α}
    {see : α → β} {seen : β}
    (computed : calculation.toOption.map see = some seen) :
    ∃ result, calculation = .ok result ∧ see result = seen := by
  obtain ⟨result, found, same⟩ := Option.map_eq_some_iff.mp computed
  exact ⟨result, toOption_eq_some_iff.mp found, same⟩

theorem mapM_eq_ok {items : List α} {calculate : α → Except ε β}
    {value : α → β}
    (succeeds : ∀ item ∈ items, calculate item = .ok (value item)) :
    items.mapM calculate = .ok (items.map value) := by
  induction items with
  | nil => rfl
  | cons item items induction =>
      have head := succeeds item List.mem_cons_self
      have tail := induction fun other member =>
        succeeds other (List.mem_cons_of_mem _ member)
      rw [List.mapM_cons, head, tail]
      rfl

theorem mapM_exists_ok {items : List α} {calculate : α → Except ε β}
    (succeeds : ∀ item ∈ items, ∃ value, calculate item = .ok value) :
    ∃ values, items.mapM calculate = .ok values := by
  induction items with
  | nil => exact ⟨[], rfl⟩
  | cons item items induction =>
      obtain ⟨value, head⟩ := succeeds item List.mem_cons_self
      obtain ⟨values, tail⟩ := induction fun other member =>
        succeeds other (List.mem_cons_of_mem _ member)
      refine ⟨value :: values, ?_⟩
      rw [List.mapM_cons, head, tail]
      rfl

/-- One item that fails is enough. -/
theorem mapM_eq_error {items : List α} {calculate : α → Except ε β} {item : α}
    (member : item ∈ items) (failed : ∃ fault, calculate item = .error fault) :
    ∃ fault, items.mapM calculate = .error fault := by
  induction items with
  | nil => cases member
  | cons first items induction =>
      simp only [List.mapM_cons, bind_eq_error_iff]
      rcases List.mem_cons.mp member with rfl | later
      · obtain ⟨fault, failed⟩ := failed
        exact ⟨fault, .inl failed⟩
      · obtain ⟨fault, tail⟩ := induction later
        cases head : calculate first with
        | error other => exact ⟨other, .inl rfl⟩
        | ok value => exact ⟨fault, .inr ⟨value, rfl, .inl tail⟩⟩

/-- Every result comes from the item at its place. -/
theorem getElem?_of_mapM {items : List α} {calculate : α → Except ε β}
    {values : List β} (ran : items.mapM calculate = .ok values) :
    values.length = items.length ∧
      ∀ {index : Nat} {value : β}, values[index]? = some value →
        ∃ item, items[index]? = some item ∧ calculate item = .ok value := by
  induction items generalizing values with
  | nil =>
      cases ran
      exact ⟨rfl, fun place => nomatch place⟩
  | cons item items induction =>
      rw [List.mapM_cons] at ran
      obtain ⟨first, head, ran⟩ := bind_eq_ok_iff.mp ran
      obtain ⟨rest, tail, result⟩ := bind_eq_ok_iff.mp ran
      cases result
      obtain ⟨length, found⟩ := induction tail
      refine ⟨by rw [List.length_cons, List.length_cons, length], ?_⟩
      intro index value place
      cases index with
      | zero =>
          obtain rfl : first = value := Option.some.inj place
          exact ⟨item, rfl, head⟩
      | succ index => exact found place

/-! Results that are related to the items of a list, one after the other. -/

theorem ok_nil_iff {relates : α → β → Prop} {values : List β} :
    (Except.ok [] : Except ε (List β)) = .ok values ↔
      List.Forall₂ relates [] values := by
  rw [List.forall₂_nil_left_iff, Except.ok.injEq, eq_comm]

theorem ok_cons_iff {relates : α → β → Prop} {item : α} {items : List α}
    {first : Except ε β} {rest : Except ε (List β)} {values : List β}
    (head : ∀ {value : β}, first = .ok value ↔ relates item value)
    (tail : ∀ {values : List β},
      rest = .ok values ↔ List.Forall₂ relates items values) :
    (first >>= fun value => rest >>= fun values => .ok (value :: values)) =
        .ok values ↔
      List.Forall₂ relates (item :: items) values := by
  simp only [bind_eq_ok_iff, head, tail, List.forall₂_cons_left_iff]
  constructor
  · rintro ⟨value, related, others, relatedOthers, same⟩
    exact ⟨value, others, related, relatedOthers, (Except.ok.inj same).symm⟩
  · rintro ⟨value, others, related, relatedOthers, rfl⟩
    exact ⟨value, related, others, relatedOthers, rfl⟩

theorem mapM_eq_ok_iff {items : List α} {calculate : α → Except ε β}
    {values : List β} :
    items.mapM calculate = .ok values ↔
      List.Forall₂ (fun item value => calculate item = .ok value)
        items values := by
  induction items generalizing values with
  | nil => exact ok_nil_iff
  | cons item items induction =>
      rw [List.mapM_cons]
      exact ok_cons_iff Iff.rfl induction

theorem exists_of_mem_right {relates : α → β → Prop} {items : List α}
    {values : List β} {value : β}
    (related : List.Forall₂ relates items values) (member : value ∈ values) :
    ∃ item, relates item value := by
  induction related with
  | nil => cases member
  | @cons item first _ _ head _ induction =>
      rcases List.mem_cons.mp member with rfl | later
      · exact ⟨item, head⟩
      · exact induction later

theorem allM_eq_ok {items : List α} {test : α → Except ε Bool}
    {holds : α → Bool}
    (succeeds : ∀ item ∈ items, test item = .ok (holds item)) :
    items.allM test = .ok (items.all holds) := by
  induction items with
  | nil => rfl
  | cons item items induction =>
      have head := succeeds item List.mem_cons_self
      have tail := induction fun other member =>
        succeeds other (List.mem_cons_of_mem _ member)
      simp only [List.allM, head, tail, ok_bind, List.all_cons]
      cases holds item <;> rfl

theorem findM?_eq_ok {items : List α} {test : α → Except ε Bool}
    {holds : α → Bool}
    (succeeds : ∀ item ∈ items, test item = .ok (holds item)) :
    items.findM? test = .ok (items.find? holds) := by
  induction items with
  | nil => rfl
  | cons item items induction =>
      have head := succeeds item List.mem_cons_self
      have tail := induction fun other member =>
        succeeds other (List.mem_cons_of_mem _ member)
      simp only [List.findM?, head, tail, ok_bind, List.find?_cons]
      cases holds item <;> rfl

private theorem filterAuxM_eq_ok {items : List α} {test : α → Except ε Bool}
    {holds : α → Bool}
    (succeeds : ∀ item ∈ items, test item = .ok (holds item))
    (kept : List α) :
    List.filterAuxM test items kept =
      .ok ((items.filter holds).reverse ++ kept) := by
  induction items generalizing kept with
  | nil => rfl
  | cons item items induction =>
      have head := succeeds item List.mem_cons_self
      have tail := induction fun other member =>
        succeeds other (List.mem_cons_of_mem _ member)
      simp only [List.filterAuxM, head, tail, ok_bind]
      cases keeps : holds item <;> simp [keeps]

theorem filterM_eq_ok {items : List α} {test : α → Except ε Bool}
    {holds : α → Bool}
    (succeeds : ∀ item ∈ items, test item = .ok (holds item)) :
    items.filterM test = .ok (items.filter holds) := by
  simp [List.filterM, filterAuxM_eq_ok succeeds]

/-- A fold whose steps succeed and keep an invariant, which may speak of the
items that are still to come. -/
theorem foldlM_invariant {step : β → α → Except ε β}
    {invariant : List α → β → Prop}
    (preserves : ∀ {item : α} {rest : List α} {state : β},
      invariant (item :: rest) state →
        ∃ next, step state item = .ok next ∧ invariant rest next)
    {items : List α} {state : β} (start : invariant items state) :
    ∃ final, items.foldlM step state = .ok final ∧ invariant [] final := by
  induction items generalizing state with
  | nil => exact ⟨state, rfl, start⟩
  | cons item items induction =>
      obtain ⟨next, stepped, kept⟩ := preserves start
      obtain ⟨final, folded, ended⟩ := induction kept
      refine ⟨final, ?_, ended⟩
      rw [List.foldlM_cons, stepped]
      exact folded

/-- What every step of a fold keeps, where it succeeds, holds in the end. -/
theorem foldlM_keeps {step : β → α → Except ε β} {property : β → Prop}
    (keeps : ∀ {state : β} {item : α} {next : β},
      property state → step state item = .ok next → property next)
    {items : List α} {state final : β} (start : property state)
    (folded : items.foldlM step state = .ok final) : property final := by
  induction items generalizing state with
  | nil =>
      cases folded
      exact start
  | cons item items induction =>
      rw [List.foldlM_cons] at folded
      obtain ⟨next, stepped, rest⟩ := bind_eq_ok_iff.mp folded
      exact induction (keeps start stepped) rest

/-- A fold over numbers in ascending order whose states are known. -/
theorem foldlM_range_eq_ok {step : β → Nat → Except ε β} {size : Nat}
    {state : Nat → β}
    (steps : ∀ number < size,
      step (state number) number = .ok (state (number + 1))) :
    (List.range size).foldlM step (state 0) = .ok (state size) := by
  induction size with
  | zero => rfl
  | succ size induction =>
      have earlier := induction fun number less =>
        steps number (Nat.lt_succ_of_lt less)
      rw [List.range_succ, List.foldlM_append, earlier]
      have last := steps size (Nat.lt_succ_self size)
      simp [last]

/-- A fold over numbers in descending order, with an invariant that speaks of a
bound of the numbers that are still to come. -/
theorem foldlM_descending_invariant {step : β → Nat → Except ε β}
    {invariant : Nat → β → Prop}
    (preserves : ∀ {number : Nat} {state : β}, invariant (number + 1) state →
      ∃ next, step state number = .ok next ∧ invariant number next)
    {size : Nat} {state : β} (start : invariant size state) :
    ∃ final, (List.range size).reverse.foldlM step state = .ok final ∧
      invariant 0 final := by
  induction size generalizing state with
  | zero => exact ⟨state, rfl, start⟩
  | succ size induction =>
      obtain ⟨next, stepped, kept⟩ := preserves start
      obtain ⟨final, folded, ended⟩ := induction kept
      refine ⟨final, ?_, ended⟩
      rw [List.range_succ, List.reverse_append, List.reverse_singleton,
        List.singleton_append, List.foldlM_cons, stepped]
      exact folded

end RationalSimplex
