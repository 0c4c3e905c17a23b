import LineMap.Position
/-!
# Locations — lines and columns

A location is a line and a column, both counted from zero; it is written
for a reader, who counts both from one. Locations are in the order in
which a text has them: by line, and by column on one line.
-/

namespace LineMap

/-- A line, and a column on it. -/
structure Location where
  line : Int
  column : Position
deriving DecidableEq

namespace Location

/-- Locations with the same line and column are one location. -/
@[ext] theorem ext {a b : Location} (hl : a.line = b.line) (hc : a.column = b.column) : a = b := by
  cases a; cases b; cases hl; cases hc; rfl

/-- One location is before another on an earlier line, or at an earlier
column of the same line. -/
instance : LT Location :=
  ⟨fun a b => a.line < b.line ∨ (a.line = b.line ∧ a.column < b.column)⟩

/-- A location is at most another if it is before it or equal to it. -/
instance : LE Location :=
  ⟨fun a b => a.line < b.line ∨ (a.line = b.line ∧ a.column ≤ b.column)⟩

instance : DecidableLT Location := fun a b =>
  inferInstanceAs (Decidable (a.line < b.line ∨ (a.line = b.line ∧ a.column < b.column)))

instance : DecidableLE Location := fun a b =>
  inferInstanceAs (Decidable (a.line < b.line ∨ (a.line = b.line ∧ a.column ≤ b.column)))

/-- The strict order, spelled out. -/
theorem lt_iff {a b : Location} :
    a < b ↔ a.line < b.line ∨ (a.line = b.line ∧ a.column < b.column) := Iff.rfl

/-- The order, spelled out. -/
theorem le_iff {a b : Location} :
    a ≤ b ↔ a.line < b.line ∨ (a.line = b.line ∧ a.column ≤ b.column) := Iff.rfl

/-- A location as a reader counts, from one. -/
def text (l : Location) : String :=
  s!"{l.line + 1}:{l.column.offset + 1}"

end Location

end LineMap
