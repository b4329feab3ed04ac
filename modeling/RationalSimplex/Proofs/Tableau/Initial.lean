import Mathlib.Algebra.Order.Ring.Rat
import Mathlib.Tactic.Linarith
import RationalSimplex.Proofs.Linear.Dot
import RationalSimplex.Proofs.Tableau.Forms
import RationalSimplex.Tableau.Initial

/-!
# The tableau of a canonical program

Every canonical program has an initial tableau.  Its entries are described here
block by block: variables, slack variables, artificial variables, right-hand
sides.  The slack or artificial variable of every row is basic, and no
right-hand side is negative.
-/

namespace RationalSimplex

@[simp] theorem length_unitRow (size index : Nat) (number : Rat) :
    (unitRow size index number).length = size := by
  simp [unitRow]

theorem getD_append_add (left right : List Rat) (index : Nat) :
    (left ++ right).getD (left.length + index) 0 = right.getD index 0 := by
  rw [List.getD_append_right _ _ _ _ (Nat.le_add_right _ _),
    Nat.add_sub_cancel_left]

theorem getD_unitRow {size place : Nat} (inside : place < size) (index : Nat)
    (number : Rat) :
    (unitRow size index number).getD place 0 =
      if place = index then number else 0 := by
  simp [unitRow, inside]

/-- A row with one other number picks one term out of a sum of products. -/
theorem sum_mul_unitRow {size index : Nat} (inside : index < size)
    (numbers : Nat → Rat) (number : Rat) :
    ∑ place ∈ Finset.range size,
      numbers place * (unitRow size index number).getD place 0 =
        numbers index * number := by
  rw [Finset.sum_eq_single index]
  · rw [getD_unitRow inside, if_pos rfl]
  · intro place member different
    rw [getD_unitRow (Finset.mem_range.mp member), if_neg different, mul_zero]
  · intro outside
    exact absurd (Finset.mem_range.mpr inside) outside

namespace Constraint

/-- The sign by which the row of a constraint is multiplied. -/
def sign (constraint : Constraint) : Rat :=
  if constraint.needsArtificial then -1 else 1

theorem sign_ne_zero (constraint : Constraint) : constraint.sign ≠ 0 := by
  unfold sign
  split
  · norm_num
  · exact one_ne_zero

theorem constant_mul_sign_nonneg (constraint : Constraint) :
    0 ≤ constraint.constant * constraint.sign := by
  unfold sign needsArtificial
  split
  · next negative =>
      have below : constraint.constant < 0 := by simpa using negative
      linarith
  · next nonnegative =>
      have above : 0 ≤ constraint.constant := by simpa using nonnegative
      linarith

end Constraint

/-- A row that needs an artificial variable is counted from the next row on. -/
theorem artificialsBefore_lt {constraints : List Constraint}
    {constraint : Constraint} {row count : Nat}
    (place : constraints[row]? = some constraint)
    (needs : constraint.needsArtificial = true) (before : row < count) :
    artificialsBefore constraints row <
      artificialsBefore constraints count := by
  have next : artificialsBefore constraints (row + 1) =
      artificialsBefore constraints row + 1 := by
    unfold artificialsBefore
    rw [List.take_add_one, place, List.countP_append]
    simp [needs]
  have later : artificialsBefore constraints (row + 1) ≤
      artificialsBefore constraints count := by
    apply List.Sublist.countP_le
    exact (List.take_prefix_take_left (by omega)).sublist
  omega

namespace LinearProgram

/-- The number of artificial variables in the initial tableau. -/
def artificialCount (program : LinearProgram) : Nat :=
  artificialsBefore program.constraints program.constraints.length

theorem length_coefficients {program : LinearProgram} {row : Nat}
    {constraint : Constraint}
    (place : program.constraints[row]? = some constraint) :
    constraint.expression.coefficients.length = program.width :=
  (program.polytope.width_eq _ (List.mem_of_getElem? place)).trans
    program.objective_width.symm

/-- The point with the slacks of the constraints behind it, and zeros behind
these. -/
def withSlacks (program : LinearProgram) (point : List Rat) (column : Nat) :
    Rat :=
  if column < program.width then
    point.getD column 0
  else
    match program.constraints[column - program.width]? with
    | some constraint =>
        constraint.constant - dot constraint.expression.coefficients point
    | none => 0

theorem withSlacks_variable {program : LinearProgram} {column : Nat}
    (inside : column < program.width) (point : List Rat) :
    program.withSlacks point column = point.getD column 0 :=
  if_pos inside

theorem sum_withSlacks (program : LinearProgram) (numbers : Nat → Rat)
    (point : List Rat) :
    ∑ column ∈ Finset.range program.width,
      numbers column * program.withSlacks point column =
        ∑ column ∈ Finset.range program.width,
          numbers column * point.getD column 0 := by
  apply Finset.sum_congr rfl
  intro column member
  rw [withSlacks_variable (Finset.mem_range.mp member)]

theorem withSlacks_slack {program : LinearProgram} {row : Nat}
    {constraint : Constraint}
    (place : program.constraints[row]? = some constraint) (point : List Rat) :
    program.withSlacks point (program.width + row) =
      constraint.constant - dot constraint.expression.coefficients point := by
  unfold withSlacks
  rw [if_neg (by omega), Nat.add_sub_cancel_left, place]

theorem withSlacks_artificial (program : LinearProgram) (point : List Rat)
    {column : Nat}
    (outside : program.width + program.constraints.length ≤ column) :
    program.withSlacks point column = 0 := by
  have absent : program.constraints[column - program.width]? = none :=
    List.getElem?_eq_none (by omega)
  unfold withSlacks
  rw [if_neg (by omega), absent]

/-- The slacks of a point of the polytope are nonnegative. -/
theorem withSlacks_nonneg {program : LinearProgram} {point : List Rat}
    (canonical : program.IsCanonical)
    (inside : program.polytope.Contains point) (column : Nat) :
    0 ≤ program.withSlacks point column := by
  obtain ⟨_, nonnegative, upper⟩ := canonical
  rcases Nat.lt_or_ge column program.width with variable_ | slack
  · rw [withSlacks_variable variable_]
    exact inside.2 column (nonnegative column variable_)
  · obtain ⟨row, rfl⟩ := Nat.exists_eq_add_of_le slack
    cases place : program.constraints[row]? with
    | some constraint =>
        have member : constraint ∈ program.constraints :=
          List.mem_of_getElem? place
        have satisfied := inside.1 constraint member
        unfold Constraint.SatisfiedBy at satisfied
        rw [upper constraint member] at satisfied
        rw [withSlacks_slack place, sub_nonneg]
        exact satisfied
    | none =>
        have outside := List.getElem?_eq_none_iff.mp place
        rw [withSlacks_artificial program point (by omega)]

end LinearProgram

namespace Tableau

theorem initialRow_eq (slacks artificials : Nat) (constraint : Constraint)
    (index offset : Nat) :
    initialRow slacks artificials constraint index offset =
      constraint.expression.coefficients.map (· * constraint.sign) ++
        unitRow slacks index constraint.sign ++
        unitRow artificials offset
          (if constraint.needsArtificial then 1 else 0) ++
        [constraint.constant * constraint.sign] := by
  have zeros : List.replicate artificials (0 : Rat) =
      unitRow artificials offset 0 := by
    apply List.ext_getElem
    · simp
    · intro place _ _
      simp [unitRow]
  unfold initialRow Constraint.sign
  split
  · simp [Expression.negated]
  · simp [zeros]

@[simp]
theorem length_initialRow (slacks artificials : Nat) (constraint : Constraint)
    (index offset : Nat) :
    (initialRow slacks artificials constraint index offset).length =
      constraint.expression.coefficients.length + slacks + artificials + 1 := by
  rw [initialRow_eq]
  simp only [List.length_append, List.length_map, length_unitRow,
    List.length_singleton]

/-- The tableau belongs to the canonical program at the start of the simplex
method. -/
structure IsInitial (tableau : Tableau) (program : LinearProgram) : Prop
    extends Shaped tableau where
  constraintCount_eq : tableau.constraintCount = program.constraints.length
  columnCount_eq : tableau.columnCount =
    program.width + program.constraints.length + program.artificialCount
  start_eq : tableau.start =
    (List.range program.width).map fun (index : Nat) => (index : Int)
  artificial_eq : tableau.artificial =
    (List.range program.artificialCount).map fun (index : Nat) =>
      ((program.width + program.constraints.length + index : Nat) : Int)
  objective_eq : tableau.objective = program.objective
  basis_eq : ∀ {row : Nat} {constraint : Constraint},
    program.constraints[row]? = some constraint →
      tableau.basis[row]? = some (initialBasic program.width
        program.constraints.length constraint row
        (artificialsBefore program.constraints row))
  row_eq : ∀ {row : Nat} {constraint : Constraint},
    program.constraints[row]? = some constraint → ∀ column,
      tableau.entry row column = (initialRow program.constraints.length
        program.artificialCount constraint row
        (artificialsBefore program.constraints row)).getD column 0
  cost_eq : ∀ column, tableau.entry program.constraints.length column =
    if program.width + program.constraints.length ≤ column ∧
      column < program.width + program.constraints.length +
        program.artificialCount
    then 1 else 0

private theorem getD_costs (zeros ones column : Nat) :
    (List.replicate zeros (0 : Rat) ++ List.replicate ones 1 ++ [0]).getD
      column 0 = if zeros ≤ column ∧ column < zeros + ones then 1 else 0 := by
  rcases Nat.lt_or_ge column zeros with first | later
  · have absent : ¬(zeros ≤ column ∧ column < zeros + ones) := by omega
    rw [if_neg absent, List.append_assoc, List.getD_append _ _ _ _ (by simpa),
      List.getD_replicate _ first]
  · rw [List.append_assoc, List.getD_append_right _ _ _ _ (by simpa)]
    simp only [List.length_replicate]
    rcases Nat.lt_or_ge (column - zeros) ones with middle | last
    · rw [if_pos (by omega), List.getD_append _ _ _ _ (by simpa),
        List.getD_replicate _ middle]
    · rw [if_neg (by omega), List.getD_append_right _ _ _ _ (by simpa)]
      rw [List.getD_eq_getElem?_getD, List.getElem?_getD_singleton_default_eq]

/-- The rows of the initial tableau, and the one that counts the artificial
variables behind them. -/
def initialRows (program : LinearProgram) : List (List Rat) :=
  (program.constraints.mapIdx fun index constraint =>
    initialRow program.constraints.length program.artificialCount constraint
      index (artificialsBefore program.constraints index)) ++
    [List.replicate (program.width + program.constraints.length) 0 ++
      List.replicate program.artificialCount 1 ++ [0]]

@[simp] theorem length_initialRows (program : LinearProgram) :
    (initialRows program).length = program.constraints.length + 1 := by
  simp [initialRows]

theorem length_of_mem_initialRows {program : LinearProgram} {row : List Rat}
    (member : row ∈ initialRows program) :
    row.length = program.width + program.constraints.length +
      program.artificialCount + 1 := by
  rcases List.mem_append.mp member with constraintRow | costRow
  · obtain ⟨index, inside, rfl⟩ := List.mem_mapIdx.mp constraintRow
    have place : program.constraints[index]? =
        some program.constraints[index] :=
      List.getElem?_eq_getElem inside
    rw [length_initialRow, LinearProgram.length_coefficients place]
  · obtain rfl := List.mem_singleton.mp costRow
    simp only [List.length_append, List.length_replicate,
      List.length_singleton]

theorem getElem?_initialRows {program : LinearProgram} {row : Nat}
    {constraint : Constraint}
    (place : program.constraints[row]? = some constraint) :
    (initialRows program)[row]? =
      some (initialRow program.constraints.length program.artificialCount
        constraint row (artificialsBefore program.constraints row)) := by
  have inside : row < program.constraints.length :=
    (List.getElem?_eq_some_iff.mp place).1
  unfold initialRows
  rw [List.getElem?_append_left (by simpa)]
  simp [place]

theorem getElem?_initialRows_last (program : LinearProgram) :
    (initialRows program)[program.constraints.length]? =
      some (List.replicate (program.width + program.constraints.length) 0 ++
        List.replicate program.artificialCount 1 ++ [0]) := by
  simp [initialRows]

/-- The basic variables of the constraints. -/
def initialBasis (program : LinearProgram) : List Int :=
  program.constraints.mapIdx fun index constraint =>
    initialBasic program.width program.constraints.length constraint index
      (artificialsBefore program.constraints index)

@[simp] theorem length_initialBasis (program : LinearProgram) :
    (initialBasis program).length = program.constraints.length :=
  List.length_mapIdx

/-- The tableau of a program over a matrix. -/
def overMatrix (program : LinearProgram) (matrix : RatMatrix) : Tableau where
  matrix := matrix
  objective := program.objective
  basis := initialBasis program
  start := (List.range program.width).map fun (index : Nat) => (index : Int)
  artificial := (List.range program.artificialCount).map
    fun (index : Nat) =>
      ((program.width + program.constraints.length + index : Nat) : Int)
  iteration := 0

section Matrix

variable {program : LinearProgram} {matrix : RatMatrix}

private theorem entry_overMatrix (rowsEq : matrix.rows = initialRows program)
    {index : Nat} {row : List Rat}
    (place : (initialRows program)[index]? = some row) (column : Nat) :
    (overMatrix program matrix).entry index column = row.getD column 0 := by
  unfold entry RatMatrix.entry overMatrix
  rw [rowsEq]
  simp [List.getD_eq_getElem?_getD, place]

/-- Over a matrix with the initial rows, the tableau belongs to the program. -/
theorem isInitial_overMatrix (rowsEq : matrix.rows = initialRows program)
    (width : matrix.width = program.width + program.constraints.length +
      program.artificialCount + 1) :
    (overMatrix program matrix).IsInitial program := by
  have height : matrix.height = program.constraints.length + 1 := by
    rw [RatMatrix.height, rowsEq, length_initialRows]
  have constraintCount : (overMatrix program matrix).constraintCount =
      program.constraints.length := by
    change matrix.height - 1 = _
    rw [height, Nat.add_sub_cancel]
  have columnCount : (overMatrix program matrix).columnCount =
      program.width + program.constraints.length +
        program.artificialCount := by
    change matrix.width - 1 = _
    rw [width, Nat.add_sub_cancel]
  exact {
    height_eq := by
      rw [constraintCount]
      exact height
    width_eq := by
      rw [columnCount]
      exact width
    basis_length := by
      rw [constraintCount]
      exact length_initialBasis program
    constraintCount_eq := constraintCount
    columnCount_eq := columnCount
    start_eq := rfl
    artificial_eq := rfl
    objective_eq := rfl
    basis_eq := by
      intro row constraint place
      simp [overMatrix, initialBasis, place]
    row_eq := by
      intro row constraint place column
      exact entry_overMatrix rowsEq (getElem?_initialRows place) column
    cost_eq := by
      intro column
      rw [entry_overMatrix rowsEq (getElem?_initialRows_last program)]
      exact getD_costs _ _ _ }

theorem make_eq_ok (height : matrix.height = program.constraints.length + 1) :
    make matrix program.objective (overMatrix program matrix).basis
      (overMatrix program matrix).start
      (overMatrix program matrix).artificial 0 =
        .ok (overMatrix program matrix) := by
  have sized : ((initialBasis program).length : Int) =
      (matrix.height : Int) - 1 := by
    rw [height, length_initialBasis]
    omega
  exact if_pos sized

end Matrix

/-- No pivot has been carried out on an initial tableau. -/
theorem iteration_of_ofCanonical {program : LinearProgram} {tableau : Tableau}
    (built : ofCanonical program = .ok tableau) : tableau.iteration = 0 := by
  unfold ofCanonical at built
  split at built
  · obtain ⟨matrix, _, built⟩ := bind_eq_ok_iff.mp built
    rw [mapError_eq_ok_iff] at built
    unfold make at built
    split at built
    · cases built
      rfl
    · cases built
  · cases built

/-- The initial tableau of a canonical program exists. -/
theorem ofCanonical_eq_ok {program : LinearProgram}
    (canonical : program.IsCanonical) :
    ∃ tableau, ofCanonical program = .ok tableau ∧
      tableau.IsInitial program := by
  have nonempty : initialRows program ≠ [] := by
    simp [initialRows]
  obtain ⟨matrix, built, width, rowsEq⟩ :=
    RatMatrix.ofRows_eq_ok nonempty (Nat.succ_pos _)
      fun _ member => length_of_mem_initialRows member
  have height : matrix.height = program.constraints.length + 1 := by
    rw [RatMatrix.height, rowsEq, length_initialRows]
  refine ⟨overMatrix program matrix, ?_, isInitial_overMatrix rowsEq width⟩
  unfold ofCanonical
  rw [if_pos canonical]
  calc
    ((RatMatrix.ofRows (initialRows program)).mapError Fault.engine >>=
      fun matrix =>
        (make matrix program.objective (overMatrix program matrix).basis
          (overMatrix program matrix).start
          (overMatrix program matrix).artificial 0).mapError Fault.engine) =
        (make matrix program.objective (overMatrix program matrix).basis
          (overMatrix program matrix).start
          (overMatrix program matrix).artificial 0).mapError
            Fault.engine := by
      rw [built]
      rfl
    _ = .ok (overMatrix program matrix) := by
      rw [make_eq_ok height]
      rfl

namespace IsInitial

variable {tableau : Tableau} {program : LinearProgram} {row : Nat}
  {constraint : Constraint}

/-! ## Entries -/

theorem entry_variable (initial : tableau.IsInitial program)
    (place : program.constraints[row]? = some constraint) {column : Nat}
    (inside : column < program.width) :
    tableau.entry row column =
      constraint.expression.coefficients.getD column 0 * constraint.sign := by
  have width := LinearProgram.length_coefficients place
  rw [initial.row_eq place, initialRow_eq, List.append_assoc,
    List.append_assoc, List.getD_append _ _ _ _ (by simpa [width]),
    getD_map_mul]

theorem entry_slack (initial : tableau.IsInitial program)
    (place : program.constraints[row]? = some constraint) {index : Nat}
    (inside : index < program.constraints.length) :
    tableau.entry row (program.width + index) =
      if index = row then constraint.sign else 0 := by
  have width : program.width =
      (constraint.expression.coefficients.map
        (· * constraint.sign)).length := by
    rw [List.length_map, LinearProgram.length_coefficients place]
  rw [initial.row_eq place, initialRow_eq, List.append_assoc,
    List.append_assoc, width, getD_append_add,
    List.getD_append _ _ _ _ (by simpa), getD_unitRow inside]

theorem entry_artificial (initial : tableau.IsInitial program)
    (place : program.constraints[row]? = some constraint) {index : Nat}
    (inside : index < program.artificialCount) :
    tableau.entry row (program.width + program.constraints.length + index) =
      if index = artificialsBefore program.constraints row then
        if constraint.needsArtificial then 1 else 0
      else 0 := by
  have width : program.width + program.constraints.length =
      (constraint.expression.coefficients.map (· * constraint.sign) ++
        unitRow program.constraints.length row constraint.sign).length := by
    rw [List.length_append, List.length_map, length_unitRow,
      LinearProgram.length_coefficients place]
  rw [initial.row_eq place, initialRow_eq, List.append_assoc _ (unitRow _ _ _),
    width, getD_append_add, List.getD_append _ _ _ _ (by simpa),
    getD_unitRow inside]

theorem level_eq (initial : tableau.IsInitial program)
    (place : program.constraints[row]? = some constraint) :
    tableau.level row = constraint.constant * constraint.sign := by
  have width : program.width + program.constraints.length +
      program.artificialCount =
        (constraint.expression.coefficients.map (· * constraint.sign) ++
          unitRow program.constraints.length row constraint.sign ++
          unitRow program.artificialCount
            (artificialsBefore program.constraints row)
            (if constraint.needsArtificial then 1 else 0)).length := by
    simp only [List.length_append, List.length_map, length_unitRow,
      LinearProgram.length_coefficients place]
  unfold level
  rw [initial.row_eq place, initialRow_eq, initial.columnCount_eq, width]
  exact getD_append_add _ [constraint.constant * constraint.sign] 0

theorem level_last (initial : tableau.IsInitial program) :
    tableau.level tableau.constraintCount = 0 := by
  unfold level
  rw [initial.constraintCount_eq, initial.columnCount_eq, initial.cost_eq,
    if_neg (by omega)]

/-! ## Form -/

theorem exists_constraint (initial : tableau.IsInitial program)
    (inside : row < tableau.constraintCount) :
    ∃ constraint, program.constraints[row]? = some constraint := by
  rw [initial.constraintCount_eq] at inside
  exact ⟨_, List.getElem?_eq_getElem inside⟩

/-- The column of an artificial variable is a unit vector. -/
theorem isUnit_artificial (initial : tableau.IsInitial program)
    (place : program.constraints[row]? = some constraint)
    (needs : constraint.needsArtificial = true) :
    tableau.IsUnit row (program.width + program.constraints.length +
      artificialsBefore program.constraints row) := by
  have rowInside : row < program.constraints.length :=
    (List.getElem?_eq_some_iff.mp place).1
  intro other otherInside
  obtain ⟨otherConstraint, otherPlace⟩ :=
    initial.exists_constraint otherInside
  rw [initial.entry_artificial otherPlace
    (artificialsBefore_lt place needs rowInside)]
  rcases Nat.lt_trichotomy other row with before | same | after
  · rw [if_neg before.ne]
    by_cases otherNeeds : otherConstraint.needsArtificial = true
    · have less := artificialsBefore_lt otherPlace otherNeeds before
      rw [if_neg less.ne']
    · simp [otherNeeds]
  · subst same
    obtain rfl : constraint = otherConstraint := by
      rw [place] at otherPlace
      exact Option.some.inj otherPlace
    simp [needs]
  · have less := artificialsBefore_lt place needs after
    rw [if_neg less.ne, if_neg after.ne']

theorem isUnit_slack (initial : tableau.IsInitial program)
    (place : program.constraints[row]? = some constraint)
    (free : constraint.needsArtificial = false) :
    tableau.IsUnit row (program.width + row) := by
  have rowInside : row < program.constraints.length :=
    (List.getElem?_eq_some_iff.mp place).1
  intro other otherInside
  obtain ⟨otherConstraint, otherPlace⟩ :=
    initial.exists_constraint otherInside
  rw [initial.entry_slack otherPlace rowInside]
  by_cases same : other = row
  · subst same
    obtain rfl : constraint = otherConstraint := by
      rw [place] at otherPlace
      exact Option.some.inj otherPlace
    simp [Constraint.sign, free]
  · rw [if_neg same, if_neg fun equal => same equal.symm]

theorem unitBasis (initial : tableau.IsInitial program) :
    tableau.UnitBasis where
  toShaped := initial.toShaped
  unit := by
    intro row inside
    obtain ⟨constraint, place⟩ := initial.exists_constraint inside
    have rowInside : row < program.constraints.length :=
      (List.getElem?_eq_some_iff.mp place).1
    cases needs : constraint.needsArtificial with
    | true =>
        have counted := artificialsBefore_lt place needs rowInside
        refine ⟨_, ?_, ?_, initial.isUnit_artificial place needs⟩
        · rw [initial.columnCount_eq]
          exact Nat.add_lt_add_left counted _
        · rw [initial.basis_eq place, initialBasic, if_pos needs]
    | false =>
        refine ⟨_, ?_, ?_, initial.isUnit_slack place needs⟩
        · rw [initial.columnCount_eq]
          omega
        · rw [initial.basis_eq place, initialBasic, needs]
          rfl

theorem feasible (initial : tableau.IsInitial program) : tableau.Feasible := by
  intro row inside
  obtain ⟨constraint, place⟩ := initial.exists_constraint inside
  rw [initial.level_eq place]
  exact constraint.constant_mul_sign_nonneg

/-! ## Solutions -/

private theorem sum_variables (initial : tableau.IsInitial program)
    (place : program.constraints[row]? = some constraint)
    (values : Nat → Rat) :
    ∑ column ∈ Finset.range program.width,
      tableau.entry row column * values column =
        (∑ column ∈ Finset.range program.width,
          constraint.expression.coefficients.getD column 0 * values column) *
            constraint.sign := by
  rw [Finset.sum_mul]
  apply Finset.sum_congr rfl
  intro column member
  rw [initial.entry_variable place (Finset.mem_range.mp member)]
  ring

private theorem sum_slacks (initial : tableau.IsInitial program)
    (place : program.constraints[row]? = some constraint)
    (values : Nat → Rat) :
    ∑ index ∈ Finset.range program.constraints.length,
      tableau.entry row (program.width + index) *
        values (program.width + index) =
          values (program.width + row) * constraint.sign := by
  have rowInside : row < program.constraints.length :=
    (List.getElem?_eq_some_iff.mp place).1
  rw [Finset.sum_eq_single_of_mem row (Finset.mem_range.mpr rowInside),
    initial.entry_slack place rowInside, if_pos rfl, mul_comm]
  intro index member different
  rw [initial.entry_slack place (Finset.mem_range.mp member),
    if_neg different, zero_mul]

private theorem sum_artificials (initial : tableau.IsInitial program)
    (place : program.constraints[row]? = some constraint)
    (values : Nat → Rat) :
    ∑ index ∈ Finset.range program.artificialCount,
      tableau.entry row
          (program.width + program.constraints.length + index) *
        values (program.width + program.constraints.length + index) =
          if constraint.needsArtificial then
            values (program.width + program.constraints.length +
              artificialsBefore program.constraints row)
          else 0 := by
  have rowInside : row < program.constraints.length :=
    (List.getElem?_eq_some_iff.mp place).1
  cases needs : constraint.needsArtificial with
  | true =>
      have counted : artificialsBefore program.constraints row ∈
          Finset.range program.artificialCount :=
        Finset.mem_range.mpr (artificialsBefore_lt place needs rowInside)
      rw [Finset.sum_eq_single_of_mem _ counted,
        initial.entry_artificial place (Finset.mem_range.mp counted),
        if_pos rfl, needs, if_pos rfl, if_pos rfl, one_mul]
      intro index member different
      rw [initial.entry_artificial place (Finset.mem_range.mp member),
        if_neg different, zero_mul]
  | false =>
      apply Finset.sum_eq_zero
      intro index member
      rw [initial.entry_artificial place (Finset.mem_range.mp member), needs]
      simp

/-- The residual of a row is, up to the sign of the row, what the slack
variable falls short of the slack of the constraint, less the artificial
variable. -/
theorem residual_eq (initial : tableau.IsInitial program)
    (place : program.constraints[row]? = some constraint)
    (values : Nat → Rat) :
    tableau.matrix.residual values row =
      (constraint.constant -
        ∑ column ∈ Finset.range program.width,
          constraint.expression.coefficients.getD column 0 * values column -
        values (program.width + row)) * constraint.sign -
      if constraint.needsArtificial then
        values (program.width + program.constraints.length +
          artificialsBefore program.constraints row)
      else 0 := by
  rw [Tableau.residual_eq, initial.columnCount_eq, Finset.sum_range_add,
    Finset.sum_range_add, initial.sum_variables place,
    initial.sum_slacks place, initial.sum_artificials place,
    initial.level_eq place]
  ring

/-- The objective row counts the artificial variables, with a minus sign. -/
theorem objectiveAt_eq (initial : tableau.IsInitial program)
    (values : Nat → Rat) :
    tableau.objectiveAt values =
      -∑ index ∈ Finset.range program.artificialCount,
        values (program.width + program.constraints.length + index) := by
  have costs : ∑ column ∈ Finset.range tableau.columnCount,
      tableau.entry tableau.constraintCount column * values column =
        ∑ index ∈ Finset.range program.artificialCount,
          values (program.width + program.constraints.length + index) := by
    rw [initial.columnCount_eq, initial.constraintCount_eq,
      Finset.sum_range_add]
    have before : ∑ column ∈
        Finset.range (program.width + program.constraints.length),
          tableau.entry program.constraints.length column * values column =
            0 := by
      apply Finset.sum_eq_zero
      intro column member
      have inside := Finset.mem_range.mp member
      rw [initial.cost_eq, if_neg (by omega), zero_mul]
    rw [before, zero_add]
    apply Finset.sum_congr rfl
    intro index member
    have inside := Finset.mem_range.mp member
    rw [initial.cost_eq, if_pos (by omega), one_mul]
  unfold objectiveAt
  rw [Tableau.residual_eq, costs, initial.level_last, zero_sub]

/-! ## Points -/

theorem mem_artificial_iff (initial : tableau.IsInitial program)
    {column : Nat} :
    (column : Int) ∈ tableau.artificial ↔
      program.width + program.constraints.length ≤ column ∧
        column < tableau.columnCount := by
  rw [initial.artificial_eq, initial.columnCount_eq]
  simp only [List.mem_map, List.mem_range]
  constructor
  · rintro ⟨index, inside, equal⟩
    have same : program.width + program.constraints.length + index = column :=
      by exact_mod_cast equal
    omega
  · rintro ⟨behind, inside⟩
    refine ⟨column - (program.width + program.constraints.length), by omega, ?_⟩
    congr 1
    omega

/-- A point with its slacks solves the initial tableau. -/
theorem solves_withSlacks (initial : tableau.IsInitial program)
    (point : List Rat) : tableau.Solves (program.withSlacks point) := by
  intro row inside
  obtain ⟨constraint, place⟩ := initial.exists_constraint inside
  have products : ∑ column ∈ Finset.range program.width,
      constraint.expression.coefficients.getD column 0 *
        program.withSlacks point column =
          dot constraint.expression.coefficients point := by
    rw [program.sum_withSlacks,
      dot_eq_sum (LinearProgram.length_coefficients place).le]
  have zero : program.withSlacks point (program.width +
      program.constraints.length +
        artificialsBefore program.constraints row) = 0 :=
    program.withSlacks_artificial point (by omega)
  rw [initial.residual_eq place, products,
    LinearProgram.withSlacks_slack place, zero]
  simp

/-- In a solution without artificial variables the slack variables are the
slacks of the constraints. -/
theorem slack_eq (initial : tableau.IsInitial program)
    (place : program.constraints[row]? = some constraint)
    {values : Nat → Rat} (solves : tableau.Solves values)
    (zero : ∀ column < tableau.columnCount,
      (column : Int) ∈ tableau.artificial → values column = 0) :
    values (program.width + row) = constraint.constant -
      dot constraint.expression.coefficients
        ((List.range program.width).map values) := by
  have columns := initial.columnCount_eq
  have rowInside : row < program.constraints.length :=
    (List.getElem?_eq_some_iff.mp place).1
  have equation := solves row (by rwa [initial.constraintCount_eq])
  have none : (if constraint.needsArtificial then
      values (program.width + program.constraints.length +
        artificialsBefore program.constraints row)
    else 0) = 0 := by
    split
    · next needs =>
        have counted := artificialsBefore_lt place needs rowInside
        have inside : program.width + program.constraints.length +
            artificialsBefore program.constraints row <
              tableau.columnCount := by
          rw [columns]
          exact Nat.add_lt_add_left counted _
        exact zero _ inside
          (initial.mem_artificial_iff.mpr ⟨by omega, inside⟩)
    · rfl
  rw [initial.residual_eq place, none, sub_zero, ← dot_map_range
    (LinearProgram.length_coefficients place).le] at equation
  have balance := (mul_eq_zero.mp equation).resolve_right
    constraint.sign_ne_zero
  linarith

/-- At a point with its slacks there is nothing left for the artificial
variables. -/
theorem objectiveAt_withSlacks (initial : tableau.IsInitial program)
    (point : List Rat) :
    tableau.objectiveAt (program.withSlacks point) = 0 := by
  rw [initial.objectiveAt_eq, neg_eq_zero]
  apply Finset.sum_eq_zero
  intro index _
  exact program.withSlacks_artificial point (Nat.le_add_right _ _)

/-- A nonnegative solution without artificial variables is a point of the
polytope with its slacks. -/
theorem contains_of_solves (initial : tableau.IsInitial program)
    (canonical : program.IsCanonical) {values : Nat → Rat}
    (solves : tableau.Solves values)
    (nonnegative : ∀ column < tableau.columnCount, 0 ≤ values column)
    (zero : ∀ column < tableau.columnCount,
      (column : Int) ∈ tableau.artificial → values column = 0) :
    program.polytope.Contains ((List.range program.width).map values) := by
  have columns := initial.columnCount_eq
  constructor
  · intro constraint member
    obtain ⟨row, place⟩ := List.getElem?_of_mem member
    have rowInside : row < program.constraints.length :=
      (List.getElem?_eq_some_iff.mp place).1
    have slack : 0 ≤ values (program.width + row) :=
      nonnegative _ (by omega)
    rw [initial.slack_eq place solves zero, sub_nonneg] at slack
    unfold Constraint.SatisfiedBy
    rw [canonical.2.2 constraint member]
    exact slack
  · intro index member
    have inside : index < program.width := by
      have bounded := program.polytope.nonnegative_lt index member
      rwa [← program.objective_width] at bounded
    simpa [inside] using nonnegative index (by omega)

end IsInitial

end Tableau

end RationalSimplex
