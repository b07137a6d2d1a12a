import ControlChannel.Text.Basic

/-!
# File paths

A path is a root and a list of names.  Empty names and names of a single dot are dropped when a
text is read; a name of two dots is kept, because what it means depends on links.

* `Path.ofText`, `Path.toText` — reading and printing;
* `Path.asksDirectory` — whether a text, as it is written, can only lead to a directory;
* `Path.join` — a path continued by another; an absolute one replaces it;
* `Path.name`, `Path.stem`, `Path.parent` — the last name, without its last suffix, and the rest.
-/

namespace ControlChannel

/-- Where a path begins. -/
inductive Path.Root
  /-- The working directory. -/
  | relative
  | absolute
  /-- Exactly two slashes, which a system may give a meaning of its own. -/
  | doubled
  deriving DecidableEq

/-- A path: its root and the names along it. -/
structure Path where
  root : Path.Root
  names : List Text
  deriving DecidableEq

namespace Path

/-- The slash between two names. -/
def slash : CodePoint := 0x2F

/-- The root that a text begins with. -/
def rootOf (text : Text) : Root :=
  match (text.takeWhile (· = slash)).length with
  | 0 => .relative
  | 2 => .doubled
  | _ => .absolute

/-- The path that a text writes. -/
def ofText (text : Text) : Path :=
  { root := rootOf text
    names := (Text.splitOn slash text).filter fun name => name ≠ [] && name ≠ ("." : Text) }

/-- Whether a text can only lead to a directory, because an empty name or a single dot comes
last. -/
def asksDirectory (text : Text) : Bool :=
  match (Text.splitOn slash text).getLast? with
  | some last => last = [] || last = ("." : Text)
  | none => false

/-- The text of a root. -/
def Root.toText : Root → Text
  | relative => []
  | absolute => "/"
  | doubled => "//"

/-- The text of a path; the working directory is a single dot. -/
def toText (p : Path) : Text :=
  match p.root, p.names with
  | .relative, [] => "."
  | root, names => root.toText ++ Text.joined [slash] names

/-- A path continued by another one. -/
def join (p q : Path) : Path :=
  match q.root with
  | .relative => { p with names := p.names ++ q.names }
  | _ => q

/-- The last name, empty if there is none. -/
def name (p : Path) : Text := p.names.getLast?.getD []

/-- The path without its last name. -/
def parent (p : Path) : Path := { p with names := p.names.dropLast }

/-- A name without its last suffix.  A point at either end of the name begins no suffix. -/
def stemOf (name : Text) : Text :=
  let suffix := (name.reverse.takeWhile (· ≠ (0x2E : CodePoint))).length
  let before := name.length - suffix - 1
  if suffix = 0 || name.length ≤ suffix || before = 0 then name else name.take before

/-- The last name without its last suffix. -/
def stem (p : Path) : Text := stemOf p.name

end Path

end ControlChannel
