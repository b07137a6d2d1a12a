import ControlChannel.FileTree

/-!
# What surrounds a program

* `Environment` — the variables, in the order in which they were set, and `Environment.ofBlock`,
  the same from the block in which a system hands them over;
* `Surroundings` — the variables, the program's own first argument, the directory for temporary
  files, the homes of accounts, the file tree, and the terminal.
-/

namespace ControlChannel

/-- Environment variables. -/
abbrev Environment := List (Text × Text)

namespace Environment

/-- The value of a variable. -/
def get? (e : Environment) (name : Text) : Option Text := e.lookup name

/-- The value of a variable that is set to something. -/
def nonempty? (e : Environment) (name : Text) : Option Text :=
  (e.get? name).filter (! ·.isEmpty)

/-- The variables without one of them. -/
def unset (e : Environment) (name : Text) : Environment := e.filter (·.1 ≠ name)

/-- The variables with one of them set.  The system holds the octets of its value. -/
def set (e : Environment) (name value : Text) : Environment :=
  e.unset name ++ [(name, Utf8.reread value)]

/-- The mark between a name and its value. -/
def equalsSign : CodePoint := 0x3D

/-- The variables of a block of entries, each of which ends with an octet zero. -/
def ofBlock (block : Bytes) : Environment :=
  let entries := (Text.splitOn 0 (Utf8.decodeEscaping block)).filter (! ·.isEmpty)
  entries.map fun entry =>
    (entry.takeWhile (· ≠ equalsSign), (entry.dropWhile (· ≠ equalsSign)).drop 1)

end Environment

/-- What a program finds when it starts. -/
structure Surroundings where
  environment : Environment
  /-- The first of the program's own arguments. -/
  argv0 : Text
  /-- The directory for temporary files. -/
  temporary : Text
  /-- The home directory of the account the program runs as. -/
  ownHome : Text
  /-- The home directories of the accounts, by their names. -/
  homes : List (Text × Text)
  files : FileTree
  /-- The columns of the terminal that the program writes to, if it writes to one. -/
  terminalColumns : Option Nat := none

end ControlChannel
