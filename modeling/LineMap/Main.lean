import LineMap.Cli.Run
/-!
# The program

Runs the command on the machine's own files: reads the one file that the
arguments name, and hands its bytes, or why there are none, to the command.
The home directory is the one that the environment names; the machine's
table of users is not read, so it counts as empty.
-/

namespace LineMap.Machine

/-- The number of a system error; some are handed over with their sign
changed. -/
def errorNumber (code : UInt32) : Nat :=
  if code < 0x80000000 then code.toNat else (0 - code).toNat

/-- Why the machine gave no bytes. -/
def readFailureOf : IO.Error → ReadFailure
  | .noFileOrDirectory .. => .missing
  | .inappropriateType _ code details =>
    match errorNumber code with
    | 20 => .notDirectory
    | 21 => .isDirectory
    | _ => .reported details
  | .invalidArgument _ code details =>
    if errorNumber code = 36 then .nameTooLong else .reported details
  | error => .reported (toString error)

/-- The file system that holds what one path gives. -/
def readMachine (path : Path) : IO FileSystem := do
  match ← (IO.FS.readBinFile path.text).toBaseIO with
  | .ok bytes => return { read := fun _ => .ok bytes.toList }
  | .error error => return { read := fun _ => .error (readFailureOf error) }

/-- The file system without files and users. -/
def nothing : FileSystem where
  read _ := .error .missing

/-- A run of the command on the machine's files. -/
def run (arguments : List String) : IO UInt32 := do
  let home ← IO.getEnv "HOME"
  let fs ←
    match Cli.fileOf? (nothing.directory? home) arguments with
    | some path => readMachine path
    | none => pure nothing
  match Cli.run fs home arguments with
  | .ok outcome =>
    IO.print outcome.stdout
    IO.eprint outcome.stderr
    return outcome.exit.toUInt32
  | .error fault =>
    IO.eprintln fault.message
    return 1

end LineMap.Machine

/-- The program. -/
def main (arguments : List String) : IO UInt32 :=
  LineMap.Machine.run arguments
