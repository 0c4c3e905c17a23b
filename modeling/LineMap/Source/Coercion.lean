import LineMap.Argument.Coercion
import LineMap.Source.Basic
/-!
# Look-ups with arguments of any kind

The look-ups of a source for callers that are not typed. Offsets are
coerced to positions; a line may be any number, and one that is no line of
the text, such as a negative or a huge one, has no span and no text.
-/

namespace LineMap.Source

/-- The location of the position that an argument gives. -/
def locateArgument (s : Source) (offset : Argument) : Except Fault (Option Location) :=
  Position.coerce offset >>= s.locate

/-- The description of the position that an argument gives. -/
def citeArgument (s : Source) (offset : Argument) : Except Fault String :=
  Position.coerce offset >>= s.cite

/-- The descriptions of several positions, unless one of them is refused. -/
def citeAll (s : Source) (offsets : List Argument) : Except Fault (List String) :=
  offsets.mapM s.citeArgument

/-- The line of the text that a number gives, if it is in the range of the
lines; a double in that range is refused. -/
def lineOfNumber (s : Source) (line : Number) : Except Fault (Option Int) :=
  if (Number.int 0).le line && line.lt (.int s.lineCount) then
    match line.integer? with
    | some i => .ok (some i)
    | none => .error (.indexKind line.kind)
  else .ok none

/-- The span of the line that an argument gives. -/
def spanOfLineArgument (s : Source) (line : Argument) : Except Fault (Option Span) := do
  match ← s.lineOfNumber (← line.toNumber) with
  | some i => s.spanOfLine i
  | none => return none

/-- The text of the line that an argument gives. -/
def textOfLineArgument (s : Source) (line : Argument) : Except Fault (Option Text) := do
  return (← s.spanOfLineArgument line).map fun t => t.textOf s.text

end LineMap.Source
