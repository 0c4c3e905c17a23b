import LineMap.LineTable
import LineMap.Origin
/-!
# Sources — texts with an origin and a line table

A source is a text together with where it came from and the table of its
lines. A text that is longer than the greatest offset is refused; that one
check is what every later look-up rests on, because a length that is an
offset makes every line start, column and end of a line one too.
-/

namespace LineMap

/-- A text, its origin and its line table. -/
structure Source where
  origin : Origin
  text : Text
  table : LineTable
  table_eq : table = LineTable.ofText text
  length_le : table.length ≤ maxOffset

namespace Source

/-- Sources with one origin and one text are one source. -/
@[ext] theorem ext {a b : Source} (ho : a.origin = b.origin) (ht : a.text = b.text) : a = b := by
  obtain ⟨_, _, _, rfl, _⟩ := a
  obtain ⟨_, _, _, rfl, _⟩ := b
  cases ho; cases ht; rfl

instance : DecidableEq Source := fun a b =>
  decidable_of_iff (a.origin = b.origin ∧ a.text = b.text)
    ⟨fun h => ext h.1 h.2, fun h => h ▸ ⟨rfl, rfl⟩⟩

/-- **The source of a text**, unless the text is too long. -/
def ofText (origin : Origin) (text : Text) : Except Fault Source := do
  let table := LineTable.ofText text
  let fits ← table.checkLength
  return ⟨origin, text, table, rfl, fits.down⟩

/-- The number of characters. -/
def length (s : Source) : Nat :=
  s.table.length

/-- The number of lines. -/
def lineCount (s : Source) : Nat :=
  s.table.lineCount

/-- The location of a position, none at the end of the text and past it. -/
def locate (s : Source) (p : Position) : Except Fault (Option Location) :=
  s.table.locate p

/-- The locations of the two ends of a span. -/
def locateSpan (s : Source) (t : Span) : Except Fault (Option Location × Option Location) :=
  s.table.locateSpan t

/-- The span of a line, none for a line that the text does not have. -/
def spanOfLine (s : Source) (line : Int) : Except Fault (Option Span) :=
  s.table.spanOfLine line

/-- The text of a line, without its newline. -/
def textOfLine (s : Source) (line : Int) : Except Fault (Option Text) := do
  return (← s.spanOfLine line).map fun t => t.textOf s.text

/-- The part of the text that a span covers; the span must not go past the
end of the text. -/
def excerpt (s : Source) (t : Span) : Except Fault Text :=
  if t.high.offset > s.length then .error (.outOfRange (.int t.high.offset) "span end")
  else .ok (t.textOf s.text)

/-- How a place in a text is written after the origin. -/
def placeText : Option Location → String
  | none => "<eof>"
  | some l => l.text

/-- **A position for a reader**: the origin, and the location or the end of
the text. -/
def cite (s : Source) (p : Position) : Except Fault String := do
  return s.origin.text ++ ":" ++ placeText (← s.locate p)

end Source

end LineMap
