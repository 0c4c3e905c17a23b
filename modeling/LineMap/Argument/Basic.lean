import LineMap.Location
import LineMap.Span.Basic
/-!
# Arguments — values of any kind

Callers that are not typed, such as a script or a request over a wire,
hand over values of any kind. An argument is such a value. It has a kind,
which refusals name, and two texts: `plain`, as a value stands in a
sentence, and `shown`, as a value is told apart from all others. A location
among the arguments has a line of any kind, because nobody has looked at it
yet; so it may have no plain text, which counts lines from one.
-/

namespace LineMap

/-- A value of any kind. -/
inductive Argument
  | absent
  | number (value : Number)
  | text (value : String)
  | list (items : List Argument)
  | position (value : Position)
  | span (value : Span)
  | location (line : Argument) (column : Position)

namespace Argument

/-- An integer, as an argument. -/
abbrev int (value : Int) : Argument := number (.int value)

/-- A location with an integer line, as an argument. -/
def ofLocation (l : Location) : Argument := location (int l.line) l.column

/-- The kind of an argument. -/
def kind : Argument → Kind
  | absent => .absent
  | number value => value.kind
  | text _ => .text
  | list _ => .list
  | position _ => .position
  | span _ => .span
  | location .. => .location

mutual

/-- How an argument is told apart from all others. -/
def shown : Argument → String
  | absent => "None"
  | number value => value.text
  | text value => Text.quote value
  | list items => "[" ++ shownItems items ++ "]"
  | position value => value.text
  | span value => value.text
  | location line column => s!"Location(line={shown line}, column={column.text})"

/-- The items of a list, with commas between them. -/
def shownItems : List Argument → String
  | [] => ""
  | [item] => shown item
  | item :: next :: rest => shown item ++ ", " ++ shownItems (next :: rest)

end

/-- The number that is needed where whole and fractional numbers do; any
other argument is refused as one that cannot be compared with a number. -/
def toNumber : Argument → Except Fault Number
  | number value => .ok value
  | value => .error (.unordered .le .int value.kind)

/-- The integer that an argument stands for as a bound of a range. -/
def toBound : Argument → Except Fault Int
  | number value =>
    match value.integer? with
    | some i => .ok i
    | none => .error (.boundKind value.kind)
  | position value => .ok value.offset
  | value => .error (.boundKind value.kind)

/-- The sum of an argument and one. -/
def addOne : Argument → Except Fault Number
  | number value => .ok (value + .int 1)
  | text _ => .error (.notConcatenable .text)
  | list _ => .error (.notConcatenable .list)
  | value => .error (.notAddable value.kind .int)

/-- How an argument stands in a sentence. A location stands there as a
reader counts, from one, and its line has to be a number for that. -/
def plain : Argument → Except Fault String
  | text value => .ok value
  | location line column => line.addOne.map fun line => s!"{line.text}:{column.offset + 1}"
  | value => .ok value.shown

/-- A location whose line is an integer reads the same as an argument. -/
theorem plain_ofLocation (l : Location) : (ofLocation l).plain = .ok l.text := rfl

end Argument

end LineMap
