import LineMap.Argument.Basic
/-!
# Coercion — positions, spans and locations from arguments

An offset is an integer: a truth value or a double is refused, whatever
its value, and so is everything that is no number. Where a caller may hand
over a position as well, `coerce` takes it as it is.
-/

namespace LineMap

namespace Position

/-- The position at the offset that an argument gives. -/
def ofArgument : Argument → Except Fault Position
  | .number value => ofNumber value
  | value => .error (.offsetKind value.kind)

/-- The position at an offset as it is stored. -/
def ofStored (value : Argument) : Except Fault Position :=
  ofArgument value

/-- The position at the size that an argument gives. The size is compared
with the greatest offset first, so it has to be a number. -/
def ofSizeArgument : Argument → Except Fault Position
  | .number value => ofSize value
  | value => .error (.unordered .gt value.kind .int)

/-- The position that an argument is, or gives the offset of. -/
def coerce : Argument → Except Fault Position
  | .position value => .ok value
  | value => ofArgument value

end Position

namespace Span

/-- The span between two arguments, the first of them looked at first. -/
def ofArguments (low high : Argument) : Except Fault Span := do
  return between (← Position.coerce low) (← Position.coerce high)

/-- Whether an argument lies in a span: any number or position does or does
not, and any other argument is refused. -/
def containsArgument (s : Span) : Argument → Except Fault Bool
  | .position value => .ok (s.contains (.int value.offset))
  | value => value.toNumber.map s.contains

end Span

/-- A location whose line has not been looked at; its column has. -/
structure LooseLocation where
  line : Argument
  column : Position

namespace LooseLocation

/-- The location with the given line, whatever it is, at the column that an
argument gives. -/
def ofArguments (line column : Argument) : Except Fault LooseLocation :=
  (Position.coerce column).map (LooseLocation.mk line)

/-- A loose location, as an argument. -/
def toArgument (l : LooseLocation) : Argument :=
  .location l.line l.column

/-- A loose location as a reader counts, from one; the line has to be a
number for that. -/
def text (l : LooseLocation) : Except Fault String :=
  l.toArgument.plain

/-- How a loose location is told apart from all others. -/
def shown (l : LooseLocation) : String :=
  l.toArgument.shown

end LooseLocation

end LineMap
