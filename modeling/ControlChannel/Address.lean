import ControlChannel.Digest.Sha256
import ControlChannel.Environment

/-!
# Where a program's socket lies

Every call of one program finds the same socket without any setting, because its path is
derived from the program's own name:

* `programName` — the last name of the program's path without its suffix;
* `runtimeDirectory` — a directory set for this purpose, else the user's runtime directory, else
  the one for temporary files;
* `socketPath` — the name with `.sock` in that directory, or, where this is longer than
  `longestSocketPath`, a digest of it in the directory for temporary files.
-/

namespace ControlChannel

/-- The name of a program whose own path tells none. -/
def defaultProgramName : Text := "hypermangle"

/-- The variable that sets the runtime directory. -/
def runtimeDirectoryVariable : Text := "HYPERMANGLE_RUNTIME_DIR"

/-- The variable of the desktop session for the user's runtime directory. -/
def sessionDirectoryVariable : Text := "XDG_RUNTIME_DIR"

/-- The most characters of a socket path before it is shortened. -/
def longestSocketPath : Nat := 90

/-- Last names that do not tell which program runs. -/
def anonymousNames : List Text := ["__main__", "-c", "-m"]

/-- The name of the program with this path. -/
def programName (argv0 : Text) : Text :=
  let name := (Path.ofText argv0).stem
  if name.isEmpty || anonymousNames.contains name then defaultProgramName else name

/-- Why there is no telling where the socket lies. -/
inductive AddressFault
  /-- The home directory in a path has no value. -/
  | homeUndetermined
  /-- The system refuses the directory of the session. -/
  | system (fault : PathFault)
  deriving DecidableEq

/-- The wording of an address fault. -/
def AddressFault.message : AddressFault → Text
  | homeUndetermined => "Could not determine home directory."
  | system fault => fault.message

namespace Surroundings

/-- The tilde that stands for a home directory. -/
def tilde : CodePoint := 0x7E

/-- The directory that a first name with a tilde stands for; an unknown account stands for
itself. -/
def homeFor (s : Surroundings) (first : Text) : Text :=
  let home? : Option Text :=
    if first = [tilde] then some ((s.environment.get? "HOME").getD s.ownHome)
    else s.homes.lookup (first.drop 1)
  match home? with
  | none => first
  | some home =>
    let home := Text.dropEndWhile (· = Path.slash) home
    if home.isEmpty then [Path.slash] else home

/-- A relative path whose first name begins with a tilde, with the home directory in its
place. -/
def expandHome (s : Surroundings) (path : Path) : Except AddressFault Path :=
  match path.root, path.names with
  | .relative, first :: rest =>
    if first.head? = some tilde then
      let home := s.homeFor first
      if home.head? = some tilde then .error .homeUndetermined
      else .ok ((Path.ofText home).join ⟨.relative, rest⟩)
    else .ok path
  | _, _ => .ok path

/-- The directory for the sockets and log files of running programs. -/
def runtimeDirectory (s : Surroundings) : Except AddressFault Path :=
  match s.environment.nonempty? runtimeDirectoryVariable with
  | some chosen => s.expandHome (Path.ofText chosen)
  | none =>
    match s.environment.nonempty? sessionDirectoryVariable with
    | some session =>
      let path := Path.ofText session
      match s.files.find? path with
      | .ok (some .directory) => .ok path
      | .ok _ => .ok (Path.ofText s.temporary)
      | .error fault => .error (.system fault)
    | none => .ok (Path.ofText s.temporary)

/-- The name of a program that is named, or of the one that runs. -/
def nameOf (s : Surroundings) (name? : Option Text) : Text :=
  match name? with
  | some (c :: rest) => c :: rest
  | _ => programName s.argv0

/-- The name of the socket file that stands for a path which is too long. -/
def shortenedName (long : Text) : Text :=
  defaultProgramName ++ "_" ++ (Sha256.hexDigest (Utf8.encodeReplacing long)).take 16 ++ ".sock"

/-- The path of a program's socket. -/
def socketPath (s : Surroundings) (name? : Option Text) : Except AddressFault Path := do
  let directory ← s.runtimeDirectory
  let path := directory.join (Path.ofText (s.nameOf name? ++ ".sock"))
  let text := path.toText
  if longestSocketPath < text.length then
    return (Path.ofText s.temporary).join (Path.ofText (shortenedName text))
  else return path

end Surroundings

end ControlChannel
