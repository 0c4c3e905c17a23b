import LineMap.Argument.Basic
/-!
# Order — comparing arguments

Numbers are ordered among numbers, texts among texts and positions among
positions; locations are ordered by their lines, and by their columns if
the lines are the same. Any other two arguments have no order, and a
comparison of them is refused; but they can always be told apart, and
values of different kinds differ.
-/

namespace LineMap

/-- A relation in terms of "at most". -/
def Relation.holds {α : Type} (atMost : α → α → Bool) (a b : α) : Relation → Bool
  | .lt => atMost a b && !atMost b a
  | .le => atMost a b
  | .gt => atMost b a && !atMost a b
  | .ge => atMost b a

namespace Argument

mutual

/-- Whether two arguments are the same value. -/
def same : Argument → Argument → Bool
  | absent, absent => true
  | number a, number b => a.same b
  | text a, text b => a = b
  | list a, list b => sameItems a b
  | position a, position b => a = b
  | span a, span b => a = b
  | location a c, location b d => same a b && decide (c = d)
  | _, _ => false

/-- Whether two lists are the same, item by item. -/
def sameItems : List Argument → List Argument → Bool
  | [], [] => true
  | a :: as, b :: bs => same a b && sameItems as bs
  | _, _ => false

end

/-- Whether a relation holds between two arguments that have an order. -/
def compare (relation : Relation) : Argument → Argument → Except Fault Bool
  | number a, number b => .ok (relation.holds Number.le a b)
  | text a, text b => .ok (relation.holds (fun x y => decide (x ≤ y)) a b)
  | position a, position b => .ok (relation.holds (fun x y => decide (x ≤ y)) a b)
  | location a c, location b d =>
    if a.same b then .ok (relation.holds (fun x y => decide (x ≤ y)) c d)
    else compare relation a b
  | a, b => .error (.unordered relation a.kind b.kind)

/-- How many different values a list has. -/
def distinct (items : List Argument) : Nat :=
  (items.foldl (fun seen item => if seen.any (same item) then seen else item :: seen) []).length

/-- Locations with integer lines are the same only as locations. -/
@[simp] theorem same_ofLocation (a b : Location) :
    (ofLocation a).same (ofLocation b) = decide (a = b) := by
  rw [Bool.eq_iff_iff]
  simp [ofLocation, same, Location.ext_iff]

end Argument

end LineMap
