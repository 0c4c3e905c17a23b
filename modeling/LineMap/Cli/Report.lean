import LineMap.JsonValue
import LineMap.Source.Basic
/-!
# Reports — located offsets for a reader or a program

The answers of the command in its two forms: plain lines, one for each
position, and one JSON object. Both count lines and columns from one, and
both say where a position is past the end of the text.
-/

namespace LineMap.Cli

/-- The plain report: one description a line. -/
def plainReport (s : Source) (positions : List Position) : Except Fault String := do
  let lines ← positions.mapM s.cite
  return String.join (lines.map (· ++ "\n"))

/-- The JSON entry of a position: its location, or null at the end of the
text and past it. -/
def entry (p : Position) : Option Location → JsonValue
  | none => .null
  | some l =>
    .object [("column", .number (l.column.offset + 1)), ("line", .number (l.line + 1)),
      ("offset", .number p.offset)]

/-- The report as a JSON value, its fields in alphabetical order. -/
def reportValue (s : Source) (positions : List Position) : Except Fault JsonValue := do
  let entries ← positions.mapM fun p => (s.locate p).map (entry p)
  return .object [("locations", .array entries), ("origin", .text s.origin.text)]

/-- The JSON report. -/
def jsonReport (s : Source) (positions : List Position) : Except Fault String := do
  return (← reportValue s positions).render ++ "\n"

end LineMap.Cli
