import LineMap.Span.Bounds
/-!
# Edits — runs of operations on a span

An edit is an operation that makes a new span out of the current one, with
arguments of any kind. A run of edits carries a current span along: an
edit that is refused leaves it as it was.
-/

namespace LineMap

namespace Span

/-- An operation that makes a new span. -/
inductive Edit
  /-- The span between two ends, whatever the current span. -/
  | make (low high : Argument)
  /-- The span with the given bounds, whatever the current span. -/
  | makeFrom (bounds : Bounds)
  /-- Another low end. -/
  | replaceLow (low : Argument)
  /-- Another high end. -/
  | replaceHigh (high : Argument)
  /-- Both ends moved. -/
  | shift (amount : Argument)
  /-- The low end moved. -/
  | shiftLow (amount : Argument)
  /-- The high end moved. -/
  | shiftHigh (amount : Argument)
  /-- The least span around this one and another. -/
  | union (other : Argument)
  /-- The union, asked of the current span. -/
  | join (other : Argument)
  /-- The union, asked of the other value. -/
  | joinTo (other : Argument)

/-- **The span that an edit makes**, or why it makes none. -/
def edit (s : Span) : Edit → Except Fault Span
  | .make low high => ofArguments low high
  | .makeFrom bounds => ofBounds bounds
  | .replaceLow low => (Position.coerce low).map s.replaceLow
  | .replaceHigh high => (Position.coerce high).map s.replaceHigh
  | .shift amount => amount.toNumber >>= s.shift
  | .shiftLow amount => amount.toNumber >>= s.shiftLow
  | .shiftHigh amount => amount.toNumber >>= s.shiftHigh
  | .union (.span other) => .ok (s.union other)
  | .union other => .error (.notSpan other.kind)
  | .join (.span other) => .ok (s.union other)
  | .join other => .error (.notJoinable .span other.kind)
  | .joinTo (.span other) => .ok (other.union s)
  | .joinTo other => .error (.notJoinable other.kind .span)

/-- The current span after an edit, which is the old one if the edit is
refused. -/
def after (s : Span) (e : Edit) : Span :=
  match s.edit e with
  | .ok t => t
  | .error _ => s

/-- The current span after a run of edits. -/
def afterAll (s : Span) (edits : List Edit) : Span :=
  edits.foldl after s

end Span

end LineMap
