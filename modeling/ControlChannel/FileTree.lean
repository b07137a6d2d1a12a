import ControlChannel.Error
import ControlChannel.Path

/-!
# The file tree that a program sees

A finite map from places to what lies there.  A place is absolute or relative to the working
directory, and has no name of one or two dots; paths are resolved to places by walking.

* `Place`, `Node`, `FileTree` — places, what lies there, and the map;
* `FileTree.get?`, `FileTree.put`, `FileTree.erase` — the map's operations;
* `FileTree.walk` — a walk along names, which follows the links on its way;
* `FileTree.locate`, `FileTree.node` — a path walked to its place, and what lies there;
* `FileTree.resolve`, `FileTree.target`, `FileTree.find?` — the same through links at its end;
* `FileTree.reach`, `FileTree.socketAt` — what a text leads to **as it is written**, and the
  socket file that an address leads to.
-/

namespace ControlChannel

/-- A place in the tree: absolute or below the working directory, and the names to it. -/
structure Place where
  absolute : Bool
  names : List Text
  deriving DecidableEq

/-- What lies at a place. -/
inductive Node
  | directory
  | file (content : Bytes)
  | link (target : Path)
  /-- A socket file, known by its inode. -/
  | socket (inode : Nat)
  deriving DecidableEq

/-- Places and what lies there; the root, the working directory and those above it are always
directories. -/
structure FileTree where
  entries : List (Place × Node)
  deriving DecidableEq

namespace FileTree

/-- The name that leads to the directory above. -/
def back : Text := ".."

/-- What lies at a place. -/
def get? (t : FileTree) (place : Place) : Option Node :=
  if place.names.all (· = back) then some .directory else t.entries.lookup place

/-- The tree without anything at a place. -/
def erase (t : FileTree) (place : Place) : FileTree :=
  { entries := t.entries.filter (·.1 ≠ place) }

/-- The tree with this at a place. -/
def put (t : FileTree) (place : Place) (node : Node) : FileTree :=
  { entries := (t.erase place).entries ++ [(place, node)] }

/-! ### Walking -/

/-- The most octets of one name. -/
def longestName : Nat := 255

/-- The most octets of a path. -/
def longestPath : Nat := 4095

/-- The place of a name in a directory: two dots lead back. -/
def childOf (place : Place) (name : Text) : Place :=
  if name = back then
    if place.names = [] || place.names.getLast? = some back then
      if place.absolute then place else { place with names := place.names ++ [name] }
    else { place with names := place.names.dropLast }
  else { place with names := place.names ++ [name] }

/-- Where a walk comes to before it follows a link. -/
inductive Stop
  | ended (place : Place)
  /-- A link that is followed, and the names that are left to walk behind it. -/
  | linked (place : Place) (next : Path) (names : List Text)

/-- Walks along names, each of which but the last must lead to a directory, up to the first link
that is followed: one with names behind it, and also one at the end if the walk goes **through**
it. -/
def advance (t : FileTree) (through : Bool) (place : Place) : List Text → Except OsFault Stop
  | [] =>
    match t.get? place with
    | some (.link next) => .ok (if through then .linked place next [] else .ended place)
    | _ => .ok (.ended place)
  | name :: names =>
    match t.get? place with
    | some .directory =>
      if longestName < (Utf8.encodeEscaping name).length then .error .nameTooLong
      else advance t through (childOf place name) names
    | some (.link next) => .ok (.linked place next (name :: names))
    | none => .error .noEntry
    | some _ => .error .notDirectory

/-- Where the target of a link is walked from: the directory that the link lies in, or the root. -/
def baseOf (place : Place) (next : Path) : Place :=
  match next.root with
  | .relative => { place with names := place.names.dropLast }
  | _ => { absolute := true, names := [] }

/-- Walks along names and follows so many links at most, wherever on the way they lie. -/
def walk (t : FileTree) (through : Bool) : Nat → Place → List Text → Except OsFault Place
  | 0, place, names =>
    match advance t through place names with
    | .ok (.ended last) => .ok last
    | .ok (.linked ..) => .error .linkLoop
    | .error fault => .error fault
  | links + 1, place, names =>
    match advance t through place names with
    | .ok (.ended last) => .ok last
    | .ok (.linked link next rest) => walk t through links (baseOf link next) (next.names ++ rest)
    | .error fault => .error fault

/-- The most links that are followed on one way. -/
def mostLinks : Nat := 40

/-- Whether the system takes a text for a path at all: it has octets, none of them is zero, and
they are not too many. -/
def checkText (text : Text) : Except OsFault Unit :=
  match Utf8.encodeEscaping? text with
  | .error fault => .error (.unencodable fault)
  | .ok octets =>
    if octets.contains 0 then .error .nullOctet
    else if longestPath < octets.length then .error .nameTooLong
    else .ok ()

/-- The place that a path leads to, through a link at its end or not. -/
def lead (t : FileTree) (through : Bool) (path : Path) : Except OsFault Place := do
  checkText path.toText
  walk t through mostLinks { absolute := path.root ≠ .relative, names := [] } path.names

/-- The place that a path leads to, that of a link itself if one lies at its end. -/
def locate (t : FileTree) (path : Path) : Except OsFault Place := lead t false path

/-- The place that a path leads to, through links at its end. -/
def resolve (t : FileTree) (path : Path) : Except OsFault Place := lead t true path

/-- What lies at the end of a path, a link itself if it is one. -/
def node (t : FileTree) (path : Path) : Except OsFault Node := do
  let place ← locate t path
  match t.get? place with
  | some node => .ok node
  | none => .error .noEntry

/-- What a path leads to, through links. -/
def target (t : FileTree) (path : Path) : Except OsFault Node := do
  let place ← resolve t path
  match t.get? place with
  | some node => .ok node
  | none => .error .noEntry

/-- What a path leads to, or nothing.  A path that no file can have leads to nothing, and only
one that is too long is refused. -/
def find? (t : FileTree) (path : Path) : Except PathFault (Option Node) :=
  match target t path with
  | .ok node => .ok (some node)
  | .error .nameTooLong => .error ⟨.nameTooLong, path.toText⟩
  | .error _ => .ok none

/-- What a text leads to as it is written: where it ends in a slash or a single dot, only a
directory fits. -/
def reach (t : FileTree) (text : Text) : Except OsFault Node := do
  checkText text
  match ← target t (Path.ofText text) with
  | .directory => .ok .directory
  | node => if Path.asksDirectory text then .error .notDirectory else .ok node

/-! ### Sockets -/

/-- The most octets of the address of a socket. -/
def longestAddress : Nat := 107

/-- The socket file that an address leads to, known by its inode; only sockets take
connections.  An octet zero ends an address, and one in front makes it the name of a socket
without a file, which no one has. -/
def socketAt (t : FileTree) (address : Text) : Except OsFault Nat := do
  let octets ← (Utf8.encodeEscaping? address).mapError .unencodable
  let named := address.head? = some 0
  if (if named then longestAddress + 1 else longestAddress) < octets.length then
    .error .addressTooLong
  else if named then .error .connectionRefused
  else
    match ← reach t (address.takeWhile (· ≠ 0)) with
    | .socket inode => .ok inode
    | _ => .error .connectionRefused

/-- An inode that no socket file has. -/
def freshInode (t : FileTree) : Nat :=
  t.entries.foldl
    (fun n entry =>
      match entry.2 with
      | .socket inode => max n (inode + 1)
      | _ => n)
    0

/-- The places of all that is no directory. -/
def leaves (t : FileTree) : List Place :=
  (t.entries.filter fun entry => entry.2 ≠ .directory).map (·.1)

end FileTree

end ControlChannel
