import RationalSimplex.Program.Canonical
import RationalSimplex.Proofs.Linear.Dot
import RationalSimplex.Proofs.Matrix.Entries

/-!
# Split variables

Splitting several variables at once is the same as splitting one after the
other.  Carrying a plan back to the variables before the splits replaces the
value of every split variable by a difference of two coordinates of the plan.
An expression over the split variables has the same value at the plan as the
original expression at the plan that is carried back.
-/

namespace RationalSimplex

/-! ## One variable after the other -/

namespace Expression

variable {expression : Expression} {indices : List Nat}

theorem splitVariable_eq_ok {index : Nat} (inside : index < expression.width) :
    expression.splitVariable index =
      .ok (expression.splitVariables [index]) := by
  unfold splitVariable
  rw [resolveIndex?_natCast inside]

/-- New variables at the end leave the coefficients of the others as they
are. -/
theorem splitVariables_splitVariables
    (inside : ∀ index ∈ indices, index < expression.width)
    (earlier : List Nat) :
    (expression.splitVariables earlier).splitVariables indices =
      expression.splitVariables (earlier ++ indices) := by
  have appended : indices.map (fun index =>
      -((expression.splitVariables earlier).coefficients.getD index 0)) =
        indices.map fun index => -(expression.coefficients.getD index 0) := by
    apply List.map_congr_left
    intro index member
    congr 1
    exact List.getD_append _ _ _ _ (inside index member)
  unfold splitVariables at appended ⊢
  rw [appended]
  simp

end Expression

/-! ## Carrying back -/

/-- How the listed variables are split, with the new variables numbered from an
offset on. -/
def splitsFrom (indices : List Nat) (offset : Nat) : List SignSplit :=
  (indices.zipIdx offset).map fun numbered =>
    ⟨numbered.1, numbered.1, numbered.2⟩

/-- The values with differences of coordinates at the listed indices. -/
def restored (point : List Rat) : List Nat → Nat → List Rat → List Rat
  | [], _, values => values
  | index :: indices, offset, values =>
      restored point indices (offset + 1)
        (values.set index (point.getD index 0 - point.getD offset 0))

theorem elementAt?_natCast {items : List Rat} {index : Nat}
    (inside : index < items.length) :
    elementAt? items (index : Int) = some (items.getD index 0) := by
  unfold elementAt?
  rw [resolveIndex?_natCast inside]
  simp [inside]

theorem foldlM_restoreSplit {point values : List Rat} {indices : List Nat}
    {offset : Nat} (long : offset + indices.length ≤ point.length)
    (inside : ∀ index ∈ indices, index < values.length)
    (fits : values.length ≤ point.length) :
    (splitsFrom indices offset).foldlM (restoreSplit point) values =
      .ok (restored point indices offset values) := by
  induction indices generalizing offset values with
  | nil => rfl
  | cons index indices induction =>
      have first : index < values.length := inside index List.mem_cons_self
      have positive := elementAt?_natCast (Nat.lt_of_lt_of_le first fits)
      have negative : elementAt? point (offset : Int) =
          some (point.getD offset 0) := by
        apply elementAt?_natCast
        simp only [List.length_cons] at long
        omega
      have stepped : restoreSplit point values ⟨index, index, offset⟩ =
          .ok (values.set index
            (point.getD index 0 - point.getD offset 0)) := by
        unfold restoreSplit
        simp [positive, negative, first]
      have rest : offset + 1 + indices.length ≤ point.length := by
        simp only [List.length_cons] at long
        omega
      have tail := induction rest
        (fun other member => by
          simpa using inside other (List.mem_cons_of_mem _ member))
        (by simpa using fits :
          (values.set index (point.getD index 0 - point.getD offset 0)).length ≤
            point.length)
      have split : splitsFrom (index :: indices) offset =
          ⟨index, index, offset⟩ :: splitsFrom indices (offset + 1) :=
        rfl
      rw [split, List.foldlM_cons, stepped]
      exact tail

@[simp] theorem length_restored (point : List Rat) (indices : List Nat)
    (offset : Nat) (values : List Rat) :
    (restored point indices offset values).length = values.length := by
  induction indices generalizing offset values with
  | nil => rfl
  | cons index indices induction =>
      exact (induction _ _).trans List.length_set

theorem getD_restored_of_not_mem {indices : List Nat} {place : Nat}
    (absent : place ∉ indices) (point : List Rat) (offset : Nat)
    (values : List Rat) :
    (restored point indices offset values).getD place 0 =
      values.getD place 0 := by
  induction indices generalizing offset values with
  | nil => rfl
  | cons index indices induction =>
      have different : index ≠ place := by
        rintro rfl
        exact absent List.mem_cons_self
      have rest : place ∉ indices := fun member =>
        absent (List.mem_cons_of_mem _ member)
      refine (induction rest _ _).trans ?_
      simp only [List.getD_eq_getElem?_getD]
      rw [List.getElem?_set_ne different]

theorem getD_restored_of_mem {indices : List Nat} (distinct : indices.Nodup)
    {number place : Nat} (listed : indices[number]? = some place)
    (point : List Rat) (offset : Nat) {values : List Rat}
    (inside : place < values.length) :
    (restored point indices offset values).getD place 0 =
      point.getD place 0 - point.getD (offset + number) 0 := by
  induction indices generalizing offset values number with
  | nil => simp at listed
  | cons index indices induction =>
      obtain ⟨absent, rest⟩ := List.nodup_cons.mp distinct
      cases number with
      | zero =>
          obtain rfl : index = place := by simpa using listed
          refine (getD_restored_of_not_mem absent _ _ _).trans ?_
          simp [List.getD_eq_getElem?_getD, inside]
      | succ number =>
          have later : indices[number]? = some place := by simpa using listed
          have shifted := induction rest later (offset + 1)
            (by simpa using inside :
              place < (values.set index
                (point.getD index 0 - point.getD offset 0)).length)
          rw [show offset + (number + 1) = offset + 1 + number by omega]
          exact shifted

/-- The value of an expression at the restored plan. -/
theorem dot_restored {indices : List Nat} (distinct : indices.Nodup)
    {point : List Rat} {offset : Nat}
    (long : offset + indices.length ≤ point.length) {values : List Rat}
    (inside : ∀ index ∈ indices, index < values.length)
    (same : ∀ index ∈ indices, values.getD index 0 = point.getD index 0)
    (coefficients : List Rat) :
    dot coefficients (restored point indices offset values) =
      dot coefficients values +
        dot (indices.map fun index => -(coefficients.getD index 0))
          (point.drop offset) := by
  induction indices generalizing offset values with
  | nil => simp [restored]
  | cons index indices induction =>
      obtain ⟨absent, rest⟩ := List.nodup_cons.mp distinct
      have first : index < values.length := inside index List.mem_cons_self
      have here : offset < point.length := by
        simp only [List.length_cons] at long
        omega
      have later : offset + 1 + indices.length ≤ point.length := by
        simp only [List.length_cons] at long
        omega
      have kept : ∀ other ∈ indices,
          (values.set index
            (point.getD index 0 - point.getD offset 0)).getD other 0 =
              point.getD other 0 := by
        intro other member
        have different : index ≠ other := by
          rintro rfl
          exact absent member
        have old := same other (List.mem_cons_of_mem _ member)
        simp only [List.getD_eq_getElem?_getD] at old ⊢
        rw [List.getElem?_set_ne different, old]
      have tail := induction rest later
        (fun other member => by
          simpa using inside other (List.mem_cons_of_mem _ member)) kept
      have coordinate : point.drop offset =
          point.getD offset 0 :: point.drop (offset + 1) := by
        rw [List.drop_eq_getElem_cons here]
        simp [here]
      have unfolded : restored point (index :: indices) offset values =
          restored point indices (offset + 1)
            (values.set index (point.getD index 0 - point.getD offset 0)) :=
        rfl
      rw [unfolded, tail, dot_set coefficients first,
        same index List.mem_cons_self, coordinate, List.map_cons,
        dot_cons_cons]
      ring

@[simp] theorem restoreValue_restoreValue (maximize : Bool) (value : Rat) :
    restoreValue maximize (restoreValue maximize value) = value := by
  cases maximize with
  | true => rfl
  | false => exact neg_neg value

end RationalSimplex
