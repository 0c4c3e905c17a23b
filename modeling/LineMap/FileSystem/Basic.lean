import LineMap.Path
/-!
# File systems — what a path gives, and where users live

The library asks two things of the machine. One is the bytes at a path, or
why there are none; a path is asked for in normal form, so two spellings of
one path are read alike. The other is where users have their home
directories: the machine's table of users gives the directory of the user
who asks and those of others by their names. A home directory that the
user's surroundings name comes before the one in the table.
-/

namespace LineMap

/-- What reading each path gives, and the home directories in the table of
users: that of the user who asks, and that of each name. -/
structure FileSystem where
  read : Path → Except ReadFailure (List UInt8)
  ownHome : Option String := none
  homeOf : String → Option String := fun _ => none

/-- **The home directory that a name with a tilde stands for**, if there is
one: the tilde alone stands for the directory `home` that the surroundings
name, or else for the one in the table; with the name of a user after it,
it stands for the directory of that user. -/
def FileSystem.directory? (fs : FileSystem) (home : Option String) (name : String) :
    Option String :=
  if name = "~" then home.or fs.ownHome else fs.homeOf (String.ofList name.toList.tail)

end LineMap
