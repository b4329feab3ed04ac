import RationalSimplex.SlotTable
import RationalSimplex.Value.Number

/-!
# Sets and mappings

A set holds one of several equal members, the first.  Numbers are equal when
their values are, also across kinds, and so are truth values, which count as one
and zero.  A set of numbers is visited in the order of its slots; members of
other kinds are visited as they were entered.  A mapping keeps the last value of
a key at the place of the first.
-/

namespace RationalSimplex.Value

/-- The exact number that a member of a set stands for. -/
def exactNumber? : Value → Option Rat
  | .boolean truth => some (if truth then 1 else 0)
  | .integer number => some (number : Rat)
  | .fraction number => some number
  | .double number =>
      match readDouble number with
      | .finite negative magnitude =>
          some (Numeral.signed negative magnitude.value)
      | _ => none
  | _ => none

/-- Whether two members count as the same. -/
def isSameMember (left right : Value) : Bool :=
  match left.exactNumber?, right.exactNumber? with
  | some first, some second => first == second
  | none, none =>
      match left, right with
      | .null, .null => true
      | .double first, .double second => first == second
      | .text first, .text second => first == second
      | .text first, .status second => first == second.word
      | .status first, .text second => first.word == second
      | .status first, .status second => first == second
      | .relation first, .relation second => first == second
      | _, _ => false
  | _, _ => false

/-- The members without repetitions, each at its first place. -/
def distinctMembers (items : List Value) : List Value :=
  items.foldl
    (fun kept item =>
      if kept.any (isSameMember item) then kept else kept ++ [item]) []

/-- The set of the given members. -/
def setOf (items : List Value) : Value :=
  let members := distinctMembers items
  match members.mapM fun member => member.exactNumber?.map fun number =>
      (numberKey number, member) with
  | some keyed => .set (visitingOrder keyed)
  | none => .set members

/-- The entries of a mapping with one more. -/
def putEntry (key : String) (item : Value) :
    List (String × Value) → List (String × Value)
  | [] => [(key, item)]
  | head :: tail =>
      if head.1 = key then
        (key, item) :: tail
      else
        head :: putEntry key item tail

/-- The mapping of the given entries. -/
def mappingOf (entries : List (String × Value)) : Value :=
  .mapping
    (entries.foldl (fun known added => putEntry added.1 added.2 known) [])

end RationalSimplex.Value
