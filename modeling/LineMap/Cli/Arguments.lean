import LineMap.Decimal.Numeral
import LineMap.Text.Quoted
/-!
# Command-line arguments

The command takes a file and one offset or more, and the flags `-h`,
`--help` and `--json`, which may stand anywhere before a `--`. Arguments
are read in two passes. The first tells flags from words: a long flag may
be cut short as long as it is told apart, and an argument that looks like
a negative number or has a blank in it is a word. The second goes from
flag to flag: each run of words between two flags fills the file, the
offsets or both, and what fits nowhere is left over.

The first mistake that is met ends the reading; a missing argument counts
before a left-over one.
-/

namespace LineMap.Cli

/-- What a flag asks for. -/
inductive Flag
  | help
  | json
deriving DecidableEq

/-- The name of a flag in a report. -/
def Flag.name : Flag → String
  | help => "-h/--help"
  | json => "--json"

/-- The spellings of the flags. -/
def spellings : List (String × Flag) :=
  [("-h", .help), ("--help", .help), ("--json", .json)]

/-- Why arguments make no request. -/
inductive UsageError
  /-- A flag cut short may be one of several. -/
  | ambiguous (argument : String) (candidates : List String)
  /-- A flag was given a value, which it does not take. -/
  | ignoredValue (flag : Flag) (value : String)
  /-- An offset is not an integer. -/
  | invalidOffset (text : String)
  /-- Arguments are missing. -/
  | missing (names : List String)
  /-- Arguments are left over. -/
  | unrecognized (arguments : List String)
deriving DecidableEq

/-- What a usage error says. -/
def UsageError.message : UsageError → String
  | ambiguous argument candidates =>
    let list := ", ".intercalate candidates
    s!"ambiguous option: {argument} could match {list}"
  | ignoredValue flag value =>
    s!"argument {flag.name}: ignored explicit argument {Text.quote value}"
  | invalidOffset text => s!"argument offsets: invalid int value: {Text.quote text}"
  | missing names => "the following arguments are required: " ++ ", ".intercalate names
  | unrecognized arguments => "unrecognized arguments: " ++ " ".intercalate arguments

/-! ## Telling flags from words -/

/-- An argument, told apart. -/
inductive Token
  /-- A word: part of the file or the offsets. -/
  | word (text : String)
  /-- The first `--`, after which all arguments are words. -/
  | separator
  /-- A flag by its long spelling, with the value that it was given. -/
  | long (flag : Flag) (value : Option String)
  /-- The flag `-h`, with the characters that follow it. -/
  | short (value : Option String)
  /-- A flag that the command does not have. -/
  | unknown (text : String)
deriving DecidableEq

/-- The token of a flag in one of its spellings. -/
def Token.ofSpelling (spelling : String × Flag) (value : Option String) : Token :=
  if spelling.1 = "-h" then short value else long spelling.2 value

/-- Whether characters are digits, one at least. -/
def isDigits (text : Text) : Bool :=
  text ≠ [] && text.all Text.isDecimalDigit

/-- Whether characters are digits, or digits around a point with one at
least after it; a newline at the end does not count. -/
def isMagnitude (text : Text) : Bool :=
  let body := if text.getLast? = some '\n' then text.dropLast else text
  isDigits body ||
    match body.dropWhile Text.isDecimalDigit with
    | '.' :: rest => isDigits rest
    | _ => false

/-- A text split at its first `=`, if it has one. -/
def splitValue (text : String) : String × Option String :=
  match text.toList.dropWhile (· ≠ '=') with
  | [] => (text, none)
  | _ :: value => (String.ofList (text.toList.takeWhile (· ≠ '=')), some (String.ofList value))

/-- The flags that an argument may be an abbreviation of, or, after one
dash, the flag that it starts with. -/
def candidates (argument : String) : List (String × Token) :=
  match argument.toList with
  | '-' :: '-' :: _ =>
    let (name, value) := splitValue argument
    (spellings.filter fun spelling => name.toList.isPrefixOf spelling.1.toList).map
      fun spelling => (spelling.1, Token.ofSpelling spelling value)
  | '-' :: c :: rest =>
    (spellings.filter fun spelling => spelling.1.toList = ['-', c]).map
      fun spelling => (spelling.1, Token.ofSpelling spelling (some (String.ofList rest)))
  | _ => []

/-- The token of an argument that starts with a dash and is no flag as it
stands. -/
def classifyDashed (argument : String) (rest : Text) : Except UsageError Token :=
  match candidates argument with
  | [] =>
    if isMagnitude rest || argument.toList.contains ' ' then .ok (.word argument)
    else .ok (.unknown argument)
  | [(_, token)] => .ok token
  | several => .error (.ambiguous argument (several.map (·.1)))

/-- The token of an argument that is not after a `--`. -/
def classify (argument : String) : Except UsageError Token :=
  match argument.toList with
  | '-' :: rest =>
    if rest = [] then .ok (.word argument)
    else
      let (name, value) := splitValue argument
      match spellings.find? (·.1 = argument), spellings.find? (·.1 = name) with
      | some spelling, _ => .ok (Token.ofSpelling spelling none)
      | none, some spelling => .ok (Token.ofSpelling spelling value)
      | none, none => classifyDashed argument rest
  | _ => .ok (.word argument)

/-- The tokens of all arguments. -/
def tokens : List String → Except UsageError (List Token)
  | [] => .ok []
  | argument :: rest =>
    if argument = "--" then .ok (.separator :: rest.map .word)
    else do
      let token ← classify argument
      let others ← tokens rest
      return token :: others

/-! ## Filling the request -/

/-- What the command is asked to do: locate offsets in a file. -/
structure Request where
  file : String
  offsets : List Int
  json : Bool
deriving DecidableEq

/-- What the arguments ask for. -/
inductive Command
  | help
  | locate (request : Request)
deriving DecidableEq

/-- What has been filled so far, and what is left over. -/
structure Intake where
  file : Option String := none
  offsets : Option (List Int) := none
  json : Bool := false
  extras : List String := []

/-- The argument that a token was. -/
def Token.text : Token → String
  | word text => text
  | separator => "--"
  | unknown text => text
  | long flag _ => flag.name
  | short _ => "-h"

/-- Whether a token is a word. -/
def Token.isWord : Token → Bool
  | word _ => true
  | _ => false

/-- The offsets that arguments write; one `--` among them does not count. -/
def readOffsets (run : List Token) : Except UsageError (List Int) :=
  ((run.map Token.text).erase "--").mapM fun text =>
    match Decimal.integer? text.toList with
    | some offset => .ok offset
    | none => .error (.invalidOffset text)

/-- The file of a run, and the rest of the run; a `--` on either side of
the file goes with it. -/
def splitFile : List Token → String × List Token
  | .separator :: file :: rest => (file.text, rest)
  | file :: .separator :: rest => (file.text, rest)
  | file :: rest => (file.text, rest)
  | [] => ("", [])

/-- Fills what is missing from a run of words. The file takes one word and
the offsets take all others; a run in which they find no word is left
over. -/
def Intake.takeRun (state : Intake) (run : List Token) : Except UsageError Intake :=
  let count := run.countP Token.isWord
  match state.file, state.offsets with
  | none, none =>
    if 2 ≤ count then do
      let (file, rest) := splitFile run
      let offsets ← readOffsets rest
      return { state with file := some file, offsets := some offsets }
    else if count = 1 then .ok { state with file := some (splitFile run).1 }
    else .ok { state with extras := state.extras ++ run.map Token.text }
  | some _, none =>
    if 1 ≤ count then do
      let offsets ← readOffsets run
      return { state with offsets := some offsets }
    else .ok { state with extras := state.extras ++ run.map Token.text }
  | _, some _ => .ok { state with extras := state.extras ++ run.map Token.text }

/-- The request, if nothing is missing and nothing is left over. -/
def Intake.finish (state : Intake) : Except UsageError Command :=
  match state.file, state.offsets with
  | some file, some offsets =>
    if state.extras = [] then .ok (.locate ⟨file, offsets, state.json⟩)
    else .error (.unrecognized state.extras)
  | some _, none => .error (.missing ["offsets"])
  | none, some _ => .error (.missing ["file"])
  | none, none => .error (.missing ["file", "offsets"])

/-- Whether `-h` may be followed by these characters: only by itself. -/
def checkShort (value : String) : Except UsageError Unit :=
  match value.toList, value.toList.dropWhile (· = 'h') with
  | [], _ => .error (.ignoredValue .help "")
  | _, [] => .ok ()
  | _, rest => .error (.ignoredValue .help (String.ofList rest))

/-- Goes through the tokens, with the `run` of words since the last flag. -/
def consume (state : Intake) (run : List Token) : List Token → Except UsageError Command
  | [] => do (← state.takeRun run).finish
  | .long flag value :: rest => do
    let state ← state.takeRun run
    match value, flag with
    | some value, _ => .error (.ignoredValue flag value)
    | none, .help => return .help
    | none, .json => consume { state with json := true } [] rest
  | .short value :: _ => do
    let _ ← state.takeRun run
    if let some value := value then checkShort value
    return .help
  | .unknown text :: rest => do
    let state ← state.takeRun run
    consume { state with extras := state.extras ++ [text] } [] rest
  | token :: rest => consume state (run ++ [token]) rest

/-- **What the arguments ask for**, or the first mistake in them. -/
def Command.ofArguments (arguments : List String) : Except UsageError Command := do
  consume {} [] (← tokens arguments)

end LineMap.Cli
