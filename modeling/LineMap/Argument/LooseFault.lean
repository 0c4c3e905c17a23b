import LineMap.Argument.Basic
/-!
# Loose faults — causes that a caller puts together

A caller may state one of the library's own causes without having met it,
and hands over values of any kind for the data that the message quotes. A
loose fault is such a statement. It says what the fault with the same data
says (`message_ofFault?`), as long as its values can stand in a sentence.
What does not fit is an offset, and the endpoint of a shift is a position,
unless the caller says otherwise.
-/

namespace LineMap

/-- One of the library's own causes, with data that nobody has looked at. -/
inductive LooseFault
  /-- A value does not fit where it is to be stored. -/
  | outOfRange (value : Argument) (what : Argument := .text "offset")
  /-- A shift took an endpoint too high. -/
  | overflow (value : Argument) (endpoint : Argument := .text "position")
  /-- A shift took an endpoint too low. -/
  | underflow (value : Argument) (endpoint : Argument := .text "position")
  /-- A file gave no text. -/
  | unreadable (path cause : Argument)

namespace LooseFault

/-- **What a loose fault says**, or why it cannot be said. The values are
put into the sentence in the order in which they stand there. -/
def message : LooseFault → Except Fault String
  | outOfRange value what => return Fault.outOfRangeText (← what.plain) (← value.plain)
  | overflow value endpoint => return Fault.overflowText (← endpoint.plain) (← value.plain)
  | underflow value endpoint => return Fault.underflowText (← endpoint.plain) (← value.plain)
  | unreadable path cause => return Fault.unreadableText (← path.plain) (← cause.plain)

/-- The same cause, loosely, of a fault that is one of the library's own. -/
def ofFault? : Fault → Option LooseFault
  | .outOfRange value what => some (outOfRange (.number value) (.text what))
  | .overflow value endpoint => some (overflow (.number value) (.text endpoint))
  | .underflow value endpoint => some (underflow (.number value) (.text endpoint))
  | .unreadable path cause => some (unreadable (.text path) (.text (cause.message path)))
  | _ => none

/-- The library's own faults are those that can be stated loosely. -/
theorem isSome_ofFault? (fault : Fault) : (ofFault? fault).isSome = fault.isOwn := by
  cases fault <;> rfl

/-- A fault that is stated loosely says what it said. -/
theorem message_ofFault? {fault : Fault} {loose : LooseFault}
    (h : ofFault? fault = some loose) : loose.message = .ok fault.message := by
  cases fault <;> cases h <;> rfl

end LooseFault

end LineMap
