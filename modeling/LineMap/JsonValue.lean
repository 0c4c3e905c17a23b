import LineMap.Text.Quoted
/-!
# JSON values — written for a reader

JSON values and their indented text: one item or field a line, two blanks
a level. Texts are written in ASCII; any other character is escaped by the
one or two sixteen-bit units that encode it.
-/

namespace LineMap

/-- A JSON value, its fields in the order in which they are written. -/
inductive JsonValue
  | null
  | number (value : Int)
  | text (value : String)
  | array (items : List JsonValue)
  | object (fields : List (String × JsonValue))

namespace JsonValue

/-- The escape of one sixteen-bit unit. -/
def unitEscape (unit : Nat) : List Char :=
  '\\' :: 'u' :: Text.hexDigits 4 unit

/-- How a character of a text is written. -/
def escape (c : Char) : List Char :=
  if c = '"' then ['\\', '"']
  else if c = '\\' then ['\\', '\\']
  else if c = '\n' then ['\\', 'n']
  else if c = '\r' then ['\\', 'r']
  else if c = '\t' then ['\\', 't']
  else if c = '\x08' then ['\\', 'b']
  else if c = '\x0c' then ['\\', 'f']
  else if ' ' ≤ c ∧ c ≤ '~' then [c]
  else if c.toNat < 0x10000 then unitEscape c.toNat
  else
    let rest := c.toNat - 0x10000
    unitEscape (0xd800 + rest / 0x400) ++ unitEscape (0xdc00 + rest % 0x400)

/-- A text between its double quotes. -/
def quoted (value : String) : List Char :=
  '"' :: value.toList.flatMap escape ++ ['"']

/-- The break before what stands at a level. -/
def lineBreak (level : Nat) : List Char :=
  '\n' :: List.replicate (2 * level) ' '

mutual

/-- The text of a value that stands at a level. -/
def renderAt (level : Nat) : JsonValue → List Char
  | null => "null".toList
  | number value => (toString value).toList
  | text value => quoted value
  | array [] => ['[', ']']
  | array items => '[' :: renderItems (level + 1) items ++ lineBreak level ++ [']']
  | object [] => ['\x7b', '\x7d']
  | object fields => '\x7b' :: renderFields (level + 1) fields ++ lineBreak level ++ ['\x7d']

/-- The items of an array, each on a line of its own. -/
def renderItems (level : Nat) : List JsonValue → List Char
  | [] => []
  | [item] => lineBreak level ++ renderAt level item
  | item :: next :: rest =>
    lineBreak level ++ renderAt level item ++ ',' :: renderItems level (next :: rest)

/-- The fields of an object, each on a line of its own. -/
def renderFields (level : Nat) : List (String × JsonValue) → List Char
  | [] => []
  | [(name, value)] => lineBreak level ++ quoted name ++ [':', ' '] ++ renderAt level value
  | (name, value) :: next :: rest =>
    lineBreak level ++ quoted name ++ [':', ' '] ++ renderAt level value ++
      ',' :: renderFields level (next :: rest)

end

/-- **The text of a value.** -/
def render (value : JsonValue) : String :=
  String.ofList (renderAt 0 value)

end JsonValue

end LineMap
