import LineMap.Location
import LineMap.Text.Basic
/-!
# Linear scans — locating an offset without a table

The location of an offset by its definition: read the text up to the
offset, and count the newlines and the characters after the last of them.
The scan takes time in proportion to the offset and needs no table, which
makes it the yardstick for every faster way.
-/

namespace LineMap.Text

/-- Moves a line and a column past one character. -/
def advance (place : Nat × Nat) (c : Char) : Nat × Nat :=
  if c = '\n' then (place.1 + 1, 0) else (place.1, place.2 + 1)

/-- **The location of an offset by reading up to it**, none at the end of
the text and past it. A negative offset counts from the end of the text. -/
def locateByScan (text : Text) (offset : Int) : Except Fault (Option Location) :=
  if text.length ≤ offset then .ok none
  else do
    let place := (text.leading offset).foldl advance (0, 0)
    let column ← Position.ofInt place.2
    return some ⟨place.1, column⟩

end LineMap.Text
