import LineMap.Argument.Coercion
/-!
# Bounds — spans from ranges, slices and pairs

A caller may give the bounds of a span in a form of its own: a range of
integers, a slice that may leave its ends open, or two values in a row.
Ranges and slices have to run forward with step one; a pair is put in
order like the two ends of any span.
-/

namespace LineMap

/-- The bounds of a span, in one of the forms that callers have. -/
inductive Bounds
  /-- The integers from `start` up to, and without, `stop`. -/
  | range (start stop step : Argument)
  /-- A slice from `start` to `stop`, each of them absent if open. -/
  | slice (start stop step : Argument)
  /-- Two ends in a row, if the items are two. -/
  | pair (items : List Argument)
  /-- A value that may have two items. -/
  | value (value : Argument)

namespace Span

/-- The span of a range with integer bounds. -/
def ofRange (start stop step : Int) : Except Fault Span :=
  if step = 0 then .error .rangeStepZero
  else if step ≠ 1 then .error (.rangeStep step)
  else if start > stop then .error (.rangeReversed start stop)
  else do
    return between (← Position.ofSize (.int start)) (← Position.ofSize (.int stop))

/-- Whether a slice may have this step. -/
def isUnitStep : Argument → Bool
  | .absent => true
  | .number value => value.same (.int 1)
  | _ => false

/-- The span of a slice. -/
def ofSlice (start stop step : Argument) : Except Fault Span :=
  if !isUnitStep step then step.plain >>= fun step => .error (.sliceStep step)
  else
    match start, stop with
    | .absent, _ | _, .absent => .error .sliceOpen
    | _, _ => do
      let low ← Position.coerce start
      let high ← Position.coerce stop
      if low > high then .error (.sliceReversed start.shown stop.shown step.shown)
      else return between low high

/-- The span between the two items of a pair. -/
def ofPair : List Argument → Except Fault Span
  | [low, high] => ofArguments low high
  | [] => .error (.tooFewItems 0)
  | [_] => .error (.tooFewItems 1)
  | _ => .error .tooManyItems

/-- **The span with the given bounds.** A text that stands for a pair has
its characters as items. -/
def ofBounds : Bounds → Except Fault Span
  | .range start stop step => do
    ofRange (← start.toBound) (← stop.toBound) (← step.toBound)
  | .slice start stop step => ofSlice start stop step
  | .pair items => ofPair items
  | .value (.list items) => ofPair items
  | .value (.text value) => ofPair (value.toList.map fun c => .text (String.singleton c))
  | .value value => .error (.notPair value.kind)

/-- The range of a span's offsets. -/
def asRange (s : Span) : Bounds :=
  .range (.int s.low.offset) (.int s.high.offset) (.int 1)

/-- The slice that cuts a span out of a text. -/
def asSlice (s : Span) : Bounds :=
  .slice (.int s.low.offset) (.int s.high.offset) .absent

/-- The two ends of a span in a row. -/
def asPair (s : Span) : Bounds :=
  .pair [.position s.low, .position s.high]

end Span

end LineMap
