import LineMap.FileSystem.Basic
import LineMap.Source.Basic
/-!
# Loading — sources from files

A file gives a source if its bytes are the encoding of a text, taken as
they are: no line ending is changed and no mark at the front is dropped,
so offsets into the text are offsets into the file. `load` is the way in
for a path as a user types it, with `~` for the user's own home directory
and `~name` for that of another user.
-/

namespace LineMap.Source

/-- The text of the file at a path. -/
def readText (fs : FileSystem) (path : Path) : Except ReadFailure Text := do
  match Text.Utf8.decode (← fs.read path) with
  | .ok text => .ok text
  | .error fault => .error (.undecodable fault)

/-- **The source of a file.** -/
def ofFile (fs : FileSystem) (path : Path) : Except Fault Source :=
  if path.hasNull then .error .pathNull
  else
    match readText fs path with
    | .ok text => ofText (.file path) text
    | .error cause => .error (.unreadable path.text cause)

/-- The source of a file, its path given as text. -/
def ofFileNamed (fs : FileSystem) (path : String) : Except Fault Source :=
  ofFile fs (Path.ofString path)

/-- **The source of a file that a user names**, with a tilde at the front for
a home directory; `home` is the user's own where the surroundings name one. -/
def load (fs : FileSystem) (home : Option String) (path : String) : Except Fault Source := do
  ofFile fs (← (Path.ofString path).expandHome (fs.directory? home))

/-- The note that is taken of a source that was read. -/
def loadNote (s : Source) : String :=
  s!"loaded {s.origin.text} ({s.length} chars, {s.lineCount} lines)"

end LineMap.Source
