import LineMap.Fault
/-!
# Positions — offsets into a text

A position counts the characters before it and fits in thirty-two bits.
Positions are made by checked constructors only, so that a number that
does not fit is refused and never cut short; a shift is checked at both
ends of the range in the same way.
-/

namespace LineMap

/-- The greatest offset. -/
abbrev maxOffset : Nat := 4294967295

/-- The least amount of a shift. -/
abbrev minShift : Int := -2147483648

/-- The greatest amount of a shift. -/
abbrev maxShift : Int := 2147483647

/-- An offset into a text. -/
structure Position where
  offset : Nat
  offset_le : offset ≤ maxOffset
deriving DecidableEq

namespace Position

/-- Positions with one offset are one position. -/
@[ext] theorem ext {p q : Position} (h : p.offset = q.offset) : p = q := by
  cases p; cases q; cases h; rfl

/-- The start of every text. -/
def start : Position := ⟨0, by decide⟩

/-- Positions are ordered by offset. -/
instance : LE Position := ⟨fun p q => p.offset ≤ q.offset⟩

/-- One position is before another by offset. -/
instance : LT Position := ⟨fun p q => p.offset < q.offset⟩

instance : DecidableLE Position := fun p q => inferInstanceAs (Decidable (p.offset ≤ q.offset))

instance : DecidableLT Position := fun p q => inferInstanceAs (Decidable (p.offset < q.offset))

/-- The order is that of the offsets. -/
theorem le_iff {p q : Position} : p ≤ q ↔ p.offset ≤ q.offset := Iff.rfl

/-- The strict order is that of the offsets. -/
theorem lt_iff {p q : Position} : p < q ↔ p.offset < q.offset := Iff.rfl

/-- The position at an integer offset. -/
def ofInt (value : Int) : Except Fault Position :=
  if h : 0 ≤ value ∧ value ≤ maxOffset then
    .ok ⟨value.toNat, by omega⟩
  else .error (.outOfRange (.int value) "offset")

/-- The position at a number, which has to be an integer. -/
def ofNumber : Number → Except Fault Position
  | .int value => ofInt value
  | value => .error (.offsetKind value.kind)

/-- The position at a size; a number that is too wide, of whatever kind, is
refused as a size. -/
def ofSize (value : Number) : Except Fault Position :=
  if (Number.int maxOffset).lt value then .error (.outOfRange value "size") else ofNumber value

/-- The earlier of two positions. -/
protected def min (p q : Position) : Position := if p ≤ q then p else q

/-- The later of two positions. -/
protected def max (p q : Position) : Position := if p ≤ q then q else p

instance : Min Position := ⟨Position.min⟩

instance : Max Position := ⟨Position.max⟩

/-- The offset of the earlier of two positions. -/
@[simp] theorem offset_min (p q : Position) : (min p q).offset = min p.offset q.offset := by
  change (Position.min p q).offset = _
  rw [Position.min]
  split <;> simp_all only [le_iff] <;> omega

/-- The offset of the later of two positions. -/
@[simp] theorem offset_max (p q : Position) : (max p q).offset = max p.offset q.offset := by
  change (Position.max p q).offset = _
  rw [Position.max]
  split <;> simp_all only [le_iff] <;> omega

/-- **The position moved by an amount.** The amount has to fit in a signed
thirty-two bit integer, and the sum has to be an offset; `endpoint` names
the position in the refusal. -/
def shift (p : Position) (amount : Number) (endpoint : String) : Except Fault Position :=
  if (Number.int minShift).le amount && amount.le (.int maxShift) then
    let sum := .int p.offset + amount
    if sum.lt (.int 0) then .error (.underflow sum endpoint)
    else if (Number.int maxOffset).lt sum then .error (.overflow sum endpoint)
    else ofNumber sum
  else .error (.outOfRange amount "shift amount")

/-- How a position is written. -/
def text (p : Position) : String :=
  s!"Position({p.offset})"

end Position

end LineMap
