import LineMap.Path
/-!
# Origins — where a text came from

A text came from a file, or has a name of its own, such as that of an
unsaved buffer, or its origin is not known.
-/

namespace LineMap

/-- Where a text came from. -/
inductive Origin
  | file (path : Path)
  | named (name : String)
  | unknown
deriving DecidableEq

namespace Origin

/-- How an origin is written at the front of a report. -/
def text : Origin → String
  | file path => path.text
  | named name => name
  | unknown => "<unknown>"

/-- The origin of a text that was given a name, or none. -/
def ofName? : Option String → Origin
  | some name => named name
  | none => unknown

end Origin

end LineMap
