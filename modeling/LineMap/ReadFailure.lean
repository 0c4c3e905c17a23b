import LineMap.Text.Utf8
/-!
# Read failures — why a file gave no text

A file is unreadable because its path leads nowhere, or because its bytes
are not the encoding of a text. Each cause has one report, which quotes
the path where the path is at fault.
-/

namespace LineMap

/-- Why a file gave no text. -/
inductive ReadFailure
  /-- No file has this path. -/
  | missing
  /-- Something on the way to the file is not a directory. -/
  | notDirectory
  /-- The path leads to a directory. -/
  | isDirectory
  /-- The path, or a name on it, is longer than a file system takes. -/
  | nameTooLong
  /-- The bytes are not the encoding of a text. -/
  | undecodable (fault : Text.Utf8.Fault)
  /-- Another failure, in the words that it was reported with. -/
  | reported (words : String)
deriving DecidableEq

/-- The report of a failure to read the file at `path`. -/
def ReadFailure.message (path : String) : ReadFailure → String
  | missing => s!"[Errno 2] No such file or directory: {Text.quote path}"
  | notDirectory => s!"[Errno 20] Not a directory: {Text.quote path}"
  | isDirectory => s!"[Errno 21] Is a directory: {Text.quote path}"
  | nameTooLong => s!"[Errno 36] File name too long: {Text.quote path}"
  | undecodable fault => fault.message
  | reported words => words

end LineMap
