import ControlChannel.FileTree

/-!
# Directories and files that are made where they are missing

* `FileTree.makeDirectory` — one directory, which may be there already;
* `FileTree.makeDirectories`, `FileTree.makeParents` — a directory with all that are missing on
  the way to it.  **The deepest path that can be judged is judged first**, so a refusal names it;
* `FileTree.openFile`, `FileTree.openLog` — a file that is opened to be written to at its end,
  and the same with the directory that it lies in.
-/

namespace ControlChannel

namespace FileTree

/-- The tree with a directory at a path; one that is there stays. -/
def makeDirectory (t : FileTree) (path : Path) : Except OsFault FileTree := do
  let place ← t.locate path
  match t.get? place with
  | none => .ok (t.put place .directory)
  | some _ =>
    match t.target path with
    | .ok .directory => .ok t
    | _ => .error .fileExists

/-- Makes a directory at the end of the first names of a path: at once if the one above it is
there, and after that one if not.  What was made before a refusal stays. -/
def makeDirectories (t : FileTree) (path : Path) : Nat → Except PathFault Unit × FileTree
  | 0 => (.ok (), t)
  | n + 1 =>
    let part : Path := { path with names := path.names.take (n + 1) }
    match t.makeDirectory part with
    | .ok t => (.ok (), t)
    | .error .noEntry =>
      match makeDirectories t path n with
      | (.error fault, t) => (.error fault, t)
      | (.ok (), t) =>
        match t.makeDirectory part with
        | .ok t => (.ok (), t)
        | .error fault => (.error ⟨fault, part.toText⟩, t)
    | .error fault => (.error ⟨fault, part.toText⟩, t)

/-- Makes the directory that a path lies in. -/
def makeParents (t : FileTree) (path : Path) : Except PathFault Unit × FileTree :=
  makeDirectories t path (path.names.length - 1)

/-- The tree with a file at a path, which is opened to be written to at its end. -/
def openFile (t : FileTree) (path : Path) : Except PathFault FileTree :=
  let refused (fault : OsFault) : Except PathFault FileTree := .error ⟨fault, path.toText⟩
  match t.resolve path with
  | .error fault => refused fault
  | .ok place =>
    match t.get? place with
    | none => .ok (t.put place (.file []))
    | some .directory => refused .isDirectory
    | some (.socket _) => refused .noDevice
    | some _ => .ok t

/-- The tree with a log file at a path, and with the directory that it lies in. -/
def openLog (t : FileTree) (path : Path) : Except PathFault FileTree :=
  match t.makeParents path with
  | (.ok (), t) => t.openFile path
  | (.error fault, _) => .error fault

end FileTree

end ControlChannel
