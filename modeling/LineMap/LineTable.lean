import LineMap.Location
import LineMap.Span.Basic
/-!
# Line tables — where the lines of a text start

A line ends at a newline and nowhere else, and the next line starts right
after it; so a text has one line more than it has newlines, and the last
line is empty if the text ends in one. The table of a text holds its
length and the offsets at which its lines start. An offset is located by
a binary search among the starts, and the span of a line lies between two
starts, without the newline.

Every look-up here is checked: an index outside the table, a column that
does not fit or an end that does not fit would be refused.
-/

namespace LineMap

/-- The newlines of `rest`, which starts at `offset`, each give the start of
a line, added to the `starts` known so far. -/
def lineStartsFrom (offset : Nat) (rest : Text) (starts : Array Nat) : Array Nat :=
  match _h : rest.findIdx? (· = '\n') with
  | none => starts
  | some i => lineStartsFrom (offset + i + 1) (rest.drop (i + 1)) (starts.push (offset + i + 1))
termination_by rest.length
decreasing_by
  have := (List.findIdx?_eq_some_iff_findIdx_eq.1 _h).1
  simp only [List.length_drop]
  omega

/-- **The offsets at which the lines of a text start.** -/
def Text.lineStarts (text : Text) : Array Nat :=
  lineStartsFrom 0 text #[0]

/-- The length of a text, and the starts of its lines. -/
structure LineTable where
  length : Nat
  starts : Array Nat
deriving DecidableEq

namespace LineTable

/-- The table of a text. -/
def ofText (text : Text) : LineTable :=
  ⟨text.length, text.lineStarts⟩

/-- The check that the length of a text is an offset. -/
def checkLength (t : LineTable) : Except Fault (PLift (t.length ≤ maxOffset)) :=
  if h : t.length ≤ maxOffset then .ok ⟨h⟩
  else .error (.outOfRange (.int t.length) "source length")

/-- The number of lines. -/
def lineCount (t : LineTable) : Nat :=
  t.starts.size

/-- The start of a line that is in the table. -/
def startOf (t : LineTable) (line : Int) : Except Fault Nat :=
  if line < 0 then .error .outsideTable
  else
    match t.starts[line.toNat]? with
    | some offset => .ok offset
    | none => .error .outsideTable

/-- The place in ascending `starts`, between `low` and `high`, before which
all starts are at most `offset` and from which on they are above it. -/
def upperBound (starts : Array Nat) (offset low high : Nat) (h : high ≤ starts.size) : Nat :=
  if hlt : low < high then
    have hmid : (low + high) / 2 < starts.size := by omega
    if offset < starts[(low + high) / 2] then
      upperBound starts offset low ((low + high) / 2) (by omega)
    else upperBound starts offset ((low + high) / 2 + 1) high h
  else low
termination_by high - low

/-- How many lines start at an offset or before it. -/
def linesUpTo (t : LineTable) (offset : Nat) : Nat :=
  upperBound t.starts offset 0 t.starts.size (Nat.le_refl _)

/-- **The location of a position**, none at the end of the text and past
it. -/
def locate (t : LineTable) (p : Position) : Except Fault (Option Location) :=
  if t.length ≤ p.offset then .ok none
  else do
    let line : Int := (t.linesUpTo p.offset : Int) - 1
    let start ← t.startOf line
    let column ← Position.ofInt ((p.offset : Int) - start)
    return some ⟨line, column⟩

/-- Where a line ends: before the newline that starts the next line, or at
the end of the text. -/
def endOf (t : LineTable) (line : Int) : Except Fault Int :=
  if line + 1 < t.lineCount then (t.startOf (line + 1)).map fun next => (next : Int) - 1
  else .ok t.length

/-- **The span of a line**, without its newline; none for a line that the
text does not have. -/
def spanOfLine (t : LineTable) (line : Int) : Except Fault (Option Span) :=
  if 0 ≤ line ∧ line < t.lineCount then do
    let start ← t.startOf line
    let stop ← t.endOf line
    return some (← Span.ofInts start stop)
  else .ok none

/-- The locations of the two ends of a span. -/
def locateSpan (t : LineTable) (s : Span) :
    Except Fault (Option Location × Option Location) := do
  return (← t.locate s.low, ← t.locate s.high)

end LineTable

end LineMap
