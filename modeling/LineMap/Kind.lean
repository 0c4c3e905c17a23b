/-!
# Kinds — what an argument is

The kinds of values that callers may hand over, with the names that
refusals call them by.
-/

namespace LineMap

/-- The kinds of arguments. -/
inductive Kind
  | bool
  | int
  | float
  | text
  | absent
  | list
  | position
  | span
  | location
deriving DecidableEq

/-- The name of a kind, as a refusal gives it. -/
def Kind.name : Kind → String
  | bool => "bool"
  | int => "int"
  | float => "float"
  | text => "str"
  | absent => "NoneType"
  | list => "list"
  | position => "Position"
  | span => "Span"
  | location => "Location"

end LineMap
