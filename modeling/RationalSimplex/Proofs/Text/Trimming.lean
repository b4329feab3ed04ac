import RationalSimplex.Text.Characters

/-!
# Trimming

A trimmed text is what is left between characters of the outer class.
-/

namespace RationalSimplex.Text

variable {isOuter : Char → Bool} {before inner after : List Char}

theorem trimWhile_append (outerBefore : ∀ character ∈ before, isOuter character)
    (notOuter : ∀ character ∈ inner, ¬isOuter character)
    (outerAfter : ∀ character ∈ after, isOuter character) :
    trimWhile isOuter (before ++ inner ++ after) = inner := by
  have outerReversed : ∀ character ∈ after.reverse, isOuter character := by
    simpa using outerAfter
  unfold trimWhile
  rw [List.append_assoc, List.dropWhile_append_of_pos outerBefore]
  cases inner with
  | nil =>
      rw [List.nil_append, ← List.append_nil after,
        List.dropWhile_append_of_pos outerAfter]
      rfl
  | cons first inner =>
      have start := notOuter first List.mem_cons_self
      rw [List.cons_append, List.dropWhile_cons_of_neg start,
        ← List.cons_append, List.reverse_append,
        List.dropWhile_append_of_pos outerReversed]
      have unchanged : (first :: inner).reverse.dropWhile isOuter =
          (first :: inner).reverse := by
        cases reversed : (first :: inner).reverse with
        | nil => rfl
        | cons last rest =>
            apply List.dropWhile_cons_of_neg
            apply notOuter
            rw [← List.mem_reverse, reversed]
            exact List.mem_cons_self
      rw [unchanged, List.reverse_reverse]

theorem exists_trimWhile (isOuter : Char → Bool) (characters : List Char) :
    ∃ before after,
      characters = before ++ trimWhile isOuter characters ++ after ∧
      (∀ character ∈ before, isOuter character) ∧
        ∀ character ∈ after, isOuter character := by
  have outer : ∀ (list : List Char), ∀ character ∈ list.takeWhile isOuter,
      isOuter character := fun list _ member =>
    List.all_eq_true.mp list.all_takeWhile _ member
  refine ⟨characters.takeWhile isOuter,
    ((characters.dropWhile isOuter).reverse.takeWhile isOuter).reverse,
    ?_, outer characters, ?_⟩
  · unfold trimWhile
    rw [List.append_assoc, ← List.reverse_append,
      List.takeWhile_append_dropWhile, List.reverse_reverse,
      List.takeWhile_append_dropWhile]
  · intro character member
    exact outer _ _ (List.mem_reverse.mp member)

theorem digitZeros_disjoint : ∀ first ∈ digitZeros, ∀ range ∈ blankRanges,
    first + 9 < range.1 ∨ range.2 < first := by
  decide

theorem not_isBlank_of_isDigit {character : Char}
    (digit : isDigit character) : ¬isBlank character := by
  intro blank
  simp only [isBlank, inRanges, List.any_eq_true, Bool.and_eq_true,
    decide_eq_true_eq] at blank
  obtain ⟨range, listed, inRange⟩ := blank
  simp only [isDigit, digitValue?, Option.isSome_map] at digit
  obtain ⟨first, found⟩ := Option.isSome_iff_exists.mp digit
  have inRun := List.find?_some found
  simp only [Bool.and_eq_true, decide_eq_true_eq] at inRun
  have apart := digitZeros_disjoint first (List.mem_of_find?_eq_some found)
    range listed
  omega

end RationalSimplex.Text
