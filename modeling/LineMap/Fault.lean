import LineMap.Number.Basic
import LineMap.ReadFailure
/-!
# Faults — why a request was refused

A refusal is a value that says what was wrong, with the data that its
message quotes. Four of the causes are the library's own: a number that
does not fit, a shift that leaves the range at either end, and a file that
cannot be read. The others say that an argument was of the wrong kind or
shape. `Category` groups the causes by what a caller can do about them.
-/

namespace LineMap

/-- The order relations that a comparison may ask for. -/
inductive Relation
  | lt
  | le
  | gt
  | ge
deriving DecidableEq

/-- The sign of a relation. -/
def Relation.sign : Relation → String
  | lt => "<"
  | le => "<="
  | gt => ">"
  | ge => ">="

/-- Why a request was refused. -/
inductive Fault
  /-- A number does not fit where it is to be stored. -/
  | outOfRange (value : Number) (what : String)
  /-- A shift took an endpoint above the greatest offset. -/
  | overflow (value : Number) (endpoint : String)
  /-- A shift took an endpoint below zero. -/
  | underflow (value : Number) (endpoint : String)
  /-- A file gave no text. -/
  | unreadable (path : String) (cause : ReadFailure)
  /-- An offset is not an integer. -/
  | offsetKind (kind : Kind)
  /-- Two values of these kinds have no order. -/
  | unordered (relation : Relation) (left right : Kind)
  /-- A bound of a range is not an integer. -/
  | boundKind (kind : Kind)
  /-- A sequence and a number cannot be added. -/
  | notConcatenable (kind : Kind)
  /-- Two values of these kinds cannot be added. -/
  | notAddable (left right : Kind)
  /-- Two values of these kinds have no union. -/
  | notJoinable (left right : Kind)
  /-- A value that has no items stands for a pair. -/
  | notPair (kind : Kind)
  /-- A line number is not an integer. -/
  | indexKind (kind : Kind)
  /-- A pair has fewer than two items. -/
  | tooFewItems (count : Nat)
  /-- A pair has more than two items. -/
  | tooManyItems
  /-- A range has step zero. -/
  | rangeStepZero
  /-- A range has another step than one. -/
  | rangeStep (step : Int)
  /-- A range stops before it starts. -/
  | rangeReversed (start stop : Int)
  /-- A slice has another step than one. -/
  | sliceStep (step : String)
  /-- A slice has no start or no stop. -/
  | sliceOpen
  /-- A slice stops before it starts. -/
  | sliceReversed (start stop step : String)
  /-- A value that is no span stands for one. -/
  | notSpan (kind : Kind)
  /-- An offset is at or past the end of a text. -/
  | outsideText
  /-- A line is not in a line table. -/
  | outsideTable
  /-- A path has a null character. -/
  | pathNull
  /-- The home directory is not known. -/
  | homeUnknown
deriving DecidableEq

namespace Fault

/-- What kind of thing went wrong. -/
inductive Category
  /-- A number is out of range. -/
  | range
  /-- A shift left the range. -/
  | arithmetic
  /-- A file is unreadable. -/
  | reading
  /-- An argument is of the wrong kind. -/
  | kind
  /-- An argument is of the right kind, with an unfit value. -/
  | value
  /-- An argument lacks a member. -/
  | member
  /-- An index is out of bounds. -/
  | index
  /-- The surroundings lack something. -/
  | surroundings
deriving DecidableEq

/-- The category of a fault. -/
def category : Fault → Category
  | outOfRange .. => .range
  | overflow .. | underflow .. => .arithmetic
  | unreadable .. => .reading
  | offsetKind .. | unordered .. | boundKind .. | notConcatenable .. | notAddable ..
  | notJoinable .. | notPair .. | indexKind .. => .kind
  | tooFewItems .. | tooManyItems | rangeStepZero | rangeStep .. | rangeReversed ..
  | sliceStep .. | sliceOpen | sliceReversed .. | pathNull => .value
  | notSpan .. => .member
  | outsideText | outsideTable => .index
  | homeUnknown => .surroundings

/-- Whether a fault is one of the library's own causes. -/
def isOwn (fault : Fault) : Bool :=
  match fault.category with
  | .range | .arithmetic | .reading => true
  | _ => false

/-- What is said of a value that does not fit. -/
def outOfRangeText (what value : String) : String :=
  s!"{what} out of range: {value}"

/-- What is said of an endpoint that a shift took too high. -/
def overflowText (endpoint value : String) : String :=
  s!"width overflow while shifting `{endpoint}` (result {value})"

/-- What is said of an endpoint that a shift took too low. -/
def underflowText (endpoint value : String) : String :=
  s!"width underflow while shifting `{endpoint}` (result {value})"

/-- What is said of a file that gave no text. -/
def unreadableText (path cause : String) : String :=
  s!"{path}: cannot read source: {cause}"

/-- What a fault says. -/
def message : Fault → String
  | outOfRange value what => outOfRangeText what value.text
  | overflow value endpoint => overflowText endpoint value.text
  | underflow value endpoint => underflowText endpoint value.text
  | unreadable path cause => unreadableText path (cause.message path)
  | offsetKind kind => s!"position offset must be an int, got {kind.name}"
  | unordered relation left right =>
    s!"'{relation.sign}' not supported between instances of '{left.name}' and '{right.name}'"
  | boundKind kind => s!"'{kind.name}' object cannot be interpreted as an integer"
  | notConcatenable kind => s!"can only concatenate {kind.name} (not \"int\") to {kind.name}"
  | notAddable left right =>
    s!"unsupported operand type(s) for +: '{left.name}' and '{right.name}'"
  | notJoinable left right =>
    s!"unsupported operand type(s) for |: '{left.name}' and '{right.name}'"
  | notPair kind => s!"cannot unpack non-iterable {kind.name} object"
  | indexKind kind => s!"tuple indices must be integers or slices, not {kind.name}"
  | tooFewItems count => s!"not enough values to unpack (expected 2, got {count})"
  | tooManyItems => "too many values to unpack (expected 2)"
  | rangeStepZero => "range() arg 3 must not be zero"
  | rangeStep step => s!"span ranges must have step 1, got {step}"
  | rangeReversed start stop => s!"span ranges must not be reversed, got range({start}, {stop})"
  | sliceStep step => s!"span slices must have step 1, got {step}"
  | sliceOpen => "span slices need an explicit start and stop"
  | sliceReversed start stop step =>
    s!"span slices must not be reversed, got slice({start}, {stop}, {step})"
  | notSpan kind => s!"'{kind.name}' object has no attribute 'low'"
  | outsideText => "string index out of range"
  | outsideTable => "tuple index out of range"
  | pathNull => "embedded null byte"
  | homeUnknown => "Could not determine home directory."

end Fault

end LineMap
