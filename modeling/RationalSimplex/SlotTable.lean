/-!
# Distinct members and the order of sets

The distinct members of a list come in the order of their first places or by
size.  The members of a set of numbers are visited in the order of a table of
slots.  The size of the table is a power of two; a member takes the slot of its
key modulo the size or, where that is taken, the next free one on a path that
all digits of the key have a part in.  A table that is more than three fifths
full is replaced by a larger one.
-/

namespace RationalSimplex

/-! ## Distinct members -/

/-- The elements of a list without repetitions, each at its first place. -/
def distinct {α : Type} [DecidableEq α] : List α → List α
  | [] => []
  | first :: rest => first :: (distinct rest).filter (· ≠ first)

/-- The distinct numbers of a list in ascending order. -/
def ascendingNumbers (numbers : List Rat) : List Rat :=
  (distinct numbers).mergeSort fun left right => decide (left ≤ right)

/-! ## Tables of slots -/

/-- The number of words of sixty-four bits. -/
def wordCount : Nat := 18446744073709551616

/-- The prime by which keys are reduced. -/
def keyPrime : Nat := 2305843009213693951

/-- A natural power modulo a number, by squaring. -/
def powerModulo (modulus base exponent : Nat) : Nat :=
  if exponent = 0 then
    1 % modulus
  else
    let half := powerModulo modulus base (exponent / 2)
    if exponent % 2 = 0 then
      half * half % modulus
    else
      half * half * base % modulus

/-- The key of a rational number: its residue modulo the prime, with the sign of
the number.  Minus one is no key. -/
def numberKey (number : Rat) : Int :=
  let inverse := powerModulo keyPrime (number.den % keyPrime) (keyPrime - 2)
  let residue : Nat :=
    if number.den % keyPrime = 0 then
      314159
    else
      number.num.natAbs * inverse % keyPrime
  let key : Int := if number < 0 then -residue else residue
  if key = -1 then -2 else key

/-- Slots that hold members with their keys. -/
structure SlotTable (α : Type) where
  slots : Array (Option (Int × α))
  count : Nat

namespace SlotTable

variable {α : Type}

/-- A table of free slots. -/
def free (size : Nat) : SlotTable α :=
  ⟨Array.replicate size none, 0⟩

/-- How many slots behind one are tried before the path leaps. -/
def neighbours : Nat := 9

/-- The first free slot among those from a place on. -/
def freeAmong (slots : Array (Option (Int × α))) (place count : Nat) :
    Option Nat :=
  (List.range' place count).find? fun slot => (slots[slot]?.getD none).isNone

/-- The free slot at the end of the path of a key.  The path visits every slot,
and the limit is larger than its length. -/
def freeSlot (slots : Array (Option (Int × α))) (limit place digits : Nat) :
    Nat :=
  match limit with
  | 0 => place
  | limit + 1 =>
      let count := if place + neighbours < slots.size then neighbours + 1 else 1
      match freeAmong slots place count with
      | some slot => slot
      | none =>
          let digits := digits / 32
          freeSlot slots limit ((5 * place + 1 + digits) % slots.size) digits

/-- Put a new member into a table that is not full. -/
def put (table : SlotTable α) (key : Int) (member : α) : SlotTable α :=
  let word := (key.emod wordCount).toNat
  let slot :=
    freeSlot table.slots (table.slots.size + 64) (word % table.slots.size) word
  ⟨table.slots.set! slot (some (key, member)), table.count + 1⟩

/-- The members with their keys, slot by slot. -/
def contents (table : SlotTable α) : List (Int × α) :=
  table.slots.toList.filterMap id

/-- The least power of two above a number, at least the given one. -/
def sizeAbove (number : Nat) : Nat → Nat → Nat
  | 0, size => size
  | limit + 1, size =>
      if size ≤ number then sizeAbove number limit (2 * size) else size

/-- Put a new member into a table, which is replaced when it becomes too
full. -/
def add (table : SlotTable α) (key : Int) (member : α) : SlotTable α :=
  let grown := table.put key member
  if grown.count * 5 < (grown.slots.size - 1) * 3 then
    grown
  else
    let wanted :=
      if 50000 < grown.count then grown.count * 2 else grown.count * 4
    grown.contents.foldl (fun larger item => larger.put item.1 item.2)
      (free (sizeAbove wanted wanted 8))

end SlotTable

/-- Distinct members with their keys in the order in which they are visited. -/
def visitingOrder {α : Type} (members : List (Int × α)) : List α :=
  let table :=
    members.foldl (fun table item => SlotTable.add table item.1 item.2)
    (SlotTable.free 8)
  table.contents.map (·.2)

end RationalSimplex
