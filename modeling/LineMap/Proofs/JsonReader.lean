import LineMap.JsonValue
/-!
# JSON texts — reading a value back

What a JSON text says, by the grammar of JSON and with no look at how the
texts here are written. Two machines read it. The first goes through the
characters and cuts them into tokens; the second goes through the tokens
and builds the value, with a stack of the arrays and objects that are
open. Blanks may stand anywhere between tokens, a text may be written with
any of its escapes, and a number is an integer.
-/

namespace LineMap.JsonValue

/-! ## Tokens -/

/-- What a JSON text is made of. -/
inductive Token
  | openArray
  | closeArray
  | openObject
  | closeObject
  | comma
  | colon
  | null
  | number (value : Int)
  | text (value : String)
deriving DecidableEq

namespace Token

/-- The token that one character makes. -/
def ofMark? : Char → Option Token
  | '[' => some openArray
  | ']' => some closeArray
  | '\x7b' => some openObject
  | '\x7d' => some closeObject
  | ',' => some comma
  | ':' => some colon
  | _ => none

/-- The number that digits write; only zero itself starts with a zero. -/
def natural? (digits : List Char) : Option Nat :=
  match digits with
  | [] => none
  | '0' :: _ :: _ => none
  | _ => if digits.all Char.isDigit then some (Nat.ofDigitChars 10 digits 0) else none

/-- The token that a word makes. -/
def ofWord? (word : List Char) : Option Token :=
  if word = "null".toList then some null
  else
    match word with
    | '-' :: digits => (natural? digits).map fun n : Nat => number (-n)
    | digits => (natural? digits).map fun n : Nat => number n

end Token

/-- Whether a character may stand between tokens. -/
def isBlank (c : Char) : Bool :=
  c = ' ' || c = '\n' || c = '\r' || c = '\t'

/-- Whether a character goes on with a word. -/
def isPlain (c : Char) : Bool :=
  !isBlank c && (Token.ofMark? c).isNone && c ≠ '"'

/-- What the character after a backslash stands for. -/
def escaped? : Char → Option Char
  | '"' => some '"'
  | '\\' => some '\\'
  | '/' => some '/'
  | 'n' => some '\n'
  | 'r' => some '\r'
  | 't' => some '\t'
  | 'b' => some '\x08'
  | 'f' => some '\x0c'
  | _ => none

/-- The value of a hexadecimal digit. -/
def hexValue? (c : Char) : Option Nat :=
  if '0' ≤ c ∧ c ≤ '9' then some (c.toNat - 0x30)
  else if 'a' ≤ c ∧ c ≤ 'f' then some (c.toNat - 0x57)
  else if 'A' ≤ c ∧ c ≤ 'F' then some (c.toNat - 0x37)
  else none

/-- The character with a number, if there is one. -/
def char? (n : Nat) : Option Char :=
  if n.isValidChar then some (Char.ofNat n) else none

/-- **The text that units encode**: the halves of a pair stand for one
character, and no half stands alone. -/
def ofUnits? : List Nat → Option (List Char)
  | [] => some []
  | [n] => (char? n).map fun c => [c]
  | high :: low :: rest =>
    if (0xd800 ≤ high ∧ high < 0xdc00) ∧ 0xdc00 ≤ low ∧ low < 0xe000 then do
      let c ← char? (0x10000 + (high - 0xd800) * 0x400 + (low - 0xdc00))
      let others ← ofUnits? rest
      return c :: others
    else do
      let c ← char? high
      let others ← ofUnits? (low :: rest)
      return c :: others

/-! ## From characters to tokens -/

/-- Where the reader of characters stands. -/
inductive Place
  /-- Between tokens. -/
  | gap
  /-- In a word, with its characters so far, last first. -/
  | word (done : List Char)
  /-- In a text, with its units so far, last first. -/
  | text (units : List Nat)
  /-- Behind a backslash. -/
  | escape (units : List Nat)
  /-- In a numeric escape, with its value so far and the digits still due. -/
  | unit (units : List Nat) (value due : Nat)

/-- The tokens so far, last first, and where the reader stands. -/
abbrev Lexing := List Token × Place

/-- What a character does between tokens. -/
def enter (done : List Token) (c : Char) : Lexing :=
  if c = '"' then (done, .text [])
  else if isBlank c then (done, .gap)
  else
    match Token.ofMark? c with
    | some token => (token :: done, .gap)
    | none => (done, .word [c])

/-- **What a character does.** One that does not go on with a word ends it. -/
def lexStep : Lexing → Char → Option Lexing
  | (done, .gap), c => some (enter done c)
  | (done, .word w), c =>
    if isPlain c then some (done, .word (c :: w))
    else (Token.ofWord? w.reverse).map fun token => enter (token :: done) c
  | (done, .text units), c =>
    if c = '"' then
      (ofUnits? units.reverse).map fun value => (.text (String.ofList value) :: done, .gap)
    else if c = '\\' then some (done, .escape units)
    else if c < ' ' then none
    else some (done, .text (c.toNat :: units))
  | (done, .escape units), c =>
    if c = 'u' then some (done, .unit units 0 4)
    else (escaped? c).map fun d => (done, .text (d.toNat :: units))
  | (done, .unit units value due), c =>
    (hexValue? c).map fun digit =>
      if due = 1 then (done, .text ((value * 16 + digit) :: units))
      else (done, .unit units (value * 16 + digit) (due - 1))

/-- The tokens, at the end of the characters. -/
def Lexing.finish? : Lexing → Option (List Token)
  | (done, .gap) => some done.reverse
  | (done, .word w) => (Token.ofWord? w.reverse).map fun token => (token :: done).reverse
  | _ => none

/-- The tokens of a text. -/
def tokens? (chars : List Char) : Option (List Token) :=
  chars.foldlM lexStep ([], .gap) >>= Lexing.finish?

/-! ## From tokens to a value -/

/-- An array or an object that is open, with what it has so far, last
first; the object has a name whose value is still due. -/
inductive Frame
  | items (done : List JsonValue)
  | fields (done : List (String × JsonValue)) (name : String)

/-- What the builder expects. -/
inductive Expected
  /-- A value. -/
  | value
  /-- An item of an array, or the end of the array if it has none. -/
  | item (done : List JsonValue)
  /-- The name of a field, or the end of the object if it has none. -/
  | name (done : List (String × JsonValue))
  /-- The colon behind a name. -/
  | colon (done : List (String × JsonValue)) (name : String)
  /-- What comes behind a value. -/
  | mark (value : JsonValue)

/-- What is open, innermost first, and what is expected next. -/
abbrev Building := List Frame × Expected

/-- What a token does that starts a value. -/
def startValue (stack : List Frame) : Token → Option Building
  | .null => some (stack, .mark .null)
  | .number value => some (stack, .mark (.number value))
  | .text value => some (stack, .mark (.text value))
  | .openArray => some (stack, .item [])
  | .openObject => some (stack, .name [])
  | _ => none

/-- **What a token does.** -/
def buildStep : Building → Token → Option Building
  | (stack, .value), token => startValue stack token
  | (stack, .item []), .closeArray => some (stack, .mark (.array []))
  | (stack, .item done), token => startValue (.items done :: stack) token
  | (stack, .name []), .closeObject => some (stack, .mark (.object []))
  | (stack, .name done), .text name => some (stack, .colon done name)
  | (stack, .colon done name), .colon => some (.fields done name :: stack, .value)
  | (.items done :: stack, .mark value), .comma => some (stack, .item (value :: done))
  | (.items done :: stack, .mark value), .closeArray =>
    some (stack, .mark (.array (value :: done).reverse))
  | (.fields done name :: stack, .mark value), .comma => some (stack, .name ((name, value) :: done))
  | (.fields done name :: stack, .mark value), .closeObject =>
    some (stack, .mark (.object ((name, value) :: done).reverse))
  | _, _ => none

/-- The value, at the end of the tokens. -/
def Building.finish? : Building → Option JsonValue
  | ([], .mark value) => some value
  | _ => none

/-- The value that tokens make. -/
def ofTokens? (tokens : List Token) : Option JsonValue :=
  tokens.foldlM buildStep ([], .value) >>= Building.finish?

/-- **The value that a JSON text says**, if it says one. -/
def ofText? (text : String) : Option JsonValue :=
  tokens? text.toList >>= ofTokens?

end LineMap.JsonValue
