import LineMap.Argument.Order
/-!
# Sorting — arguments in ascending order

Items are sorted by asking which of two is below the other, a question
that may be refused. The items at the front that are in order already, or
in strictly descending order, are taken as they are, and each further item
is put in by a binary search. So equal items stay as they came, and of
items without an order the two that are asked about first are refused.
-/

namespace LineMap

namespace Argument

/-- Whether one argument is below another. -/
def isBelow (a b : Argument) : Except Fault Bool := compare .lt a b

/-- The place in `sorted`, between `low` and `high`, that comes after all
items that `item` is not below. -/
def placeFor (item : Argument) (sorted : Array Argument) (low high : Nat)
    (h : high ≤ sorted.size) : Except Fault Nat :=
  if hlt : low < high then
    have hmid : (low + high) / 2 < sorted.size := by omega
    (item.isBelow sorted[(low + high) / 2]).bind fun earlier =>
      if earlier then placeFor item sorted low ((low + high) / 2) (by omega)
      else placeFor item sorted ((low + high) / 2 + 1) high h
  else .ok low
termination_by high - low

/-- Sorted items with one more item among them. -/
def insertSorted (sorted : Array Argument) (item : Argument) : Except Fault (Array Argument) :=
  (placeFor item sorted 0 sorted.size (Nat.le_refl _)).map fun place =>
    sorted.insertIdxIfInBounds place item

/-- The items that carry on a run from `last`, and the items after those.
In a descending run each item is below the one before it, and in any other
run none is. -/
def splitRun (descending : Bool) (last : Argument) :
    List Argument → Except Fault (List Argument × List Argument)
  | [] => return ([], [])
  | next :: rest => do
    if (← next.isBelow last) = descending then
      let (run, rest) ← splitRun descending next rest
      return (next :: run, rest)
    else return ([], next :: rest)

/-- **The items in ascending order**, equal ones as they came. -/
def sort : List Argument → Except Fault (List Argument)
  | first :: second :: rest => do
    let descending ← second.isBelow first
    let (run, rest) ← splitRun descending second rest
    let run := first :: second :: run
    let start := if descending then run.reverse else run
    return (← rest.foldlM insertSorted start.toArray).toList
  | items => return items

/-- The least item. An item takes the place of the best one so far only if
it is below it, so the first of several equal items is kept. -/
def least? : List Argument → Except Fault (Option Argument)
  | [] => return none
  | first :: rest => return some (← rest.foldlM (fun best item => do
      return if ← item.isBelow best then item else best) first)

/-- The greatest item. Here too the first of several equal items is kept. -/
def greatest? : List Argument → Except Fault (Option Argument)
  | [] => return none
  | first :: rest => return some (← rest.foldlM (fun best item => do
      return if ← compare .gt item best then item else best) first)

end Argument

end LineMap
