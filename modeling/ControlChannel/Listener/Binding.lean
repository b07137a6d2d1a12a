import ControlChannel.Client.Probe
import ControlChannel.FileTree.Creation

/-!
# Binding a socket

Binding a socket file is what makes a process *the* running instance.  A start has four steps on
the file tree, between which other processes may come: it looks at the path, has a socket there
probed, removes it if nothing answers, and binds.

* `Binding.inspect`, `Binding.judge`, `Binding.remove`, `Binding.bind` — the steps;
* `Binding.start` — all of them;
* `Binding.close` — removes the socket file, **if it is still the one that was bound**.
-/

namespace ControlChannel

namespace Binding

/-- What lies at a path before a start. -/
inductive Occupant
  | nothing
  | socket
  deriving DecidableEq

/-- Looks at a path, where nothing but a socket may lie. -/
def inspect (files : FileTree) (path : Text) : Except Failure Occupant :=
  match files.node (Path.ofText path) with
  | .ok (.socket _) => .ok .socket
  | .ok _ => .error (.control (.notSocket path))
  | .error .noEntry => .ok .nothing
  | .error fault => .error (.system ⟨fault, (Path.ofText path).toText⟩)

/-- Whether a socket may be removed: only if its probe found that nothing answers. -/
def judge (path : Text) : Except Failure (Option Pid) → Except Failure Unit
  | .ok none => .ok ()
  | .ok (some pid) => .error (.control (.alreadyRunning path (some pid.val)))
  | .error (.control _) => .error (.control (.alreadyRunning path none))
  | .error failure => .error failure

/-- The tree without what lies at a path. -/
def remove (files : FileTree) (path : Text) : FileTree :=
  match files.locate (Path.ofText path) with
  | .ok place => files.erase place
  | .error _ => files

/-- Binds a new socket file, where nothing may lie, and the text must not ask for a
directory. -/
def bind (files : FileTree) (path : Text) (inode : Nat) : Except Failure FileTree :=
  if FileTree.longestAddress < (Utf8.encodeEscaping path).length then
    .error (.control (.unbindable path .addressTooLong))
  else
    match files.locate (Path.ofText path) with
    | .error fault => .error (.control (.unbindable path fault))
    | .ok place =>
      if (files.get? place).isSome then .error (.control (.alreadyRunning path none))
      else if Path.asksDirectory path then .error (.control (.unbindable path .noEntry))
      else .ok (files.put place (.socket inode))

/-- The tree after a stale socket was removed, given what a probe of the path finds. -/
def clear (files : FileTree) (path : Text) (probed : Except Failure (Option Pid)) :
    Except Failure FileTree :=
  match inspect files path with
  | .error failure => .error failure
  | .ok .nothing => .ok files
  | .ok .socket => (judge path probed).map fun _ => remove files path

/-- A whole start, given what a probe of the path finds and the inode of the new socket file.
What was removed and made before a failure stays so. -/
def start (files : FileTree) (path : Text) (inode : Nat)
    (probed : Except Failure (Option Pid)) : Except Failure Unit × FileTree :=
  match clear files path probed with
  | .error failure => (.error failure, files)
  | .ok files =>
    match files.makeParents (Path.ofText path) with
    | (.error fault, files) => (.error (.system fault), files)
    | (.ok (), files) =>
      match bind files path inode with
      | .error failure => (.error failure, files)
      | .ok files => (.ok (), files)

/-- Removes the socket file at a path if it has this inode. -/
def close (files : FileTree) (path : Text) (inode : Nat) : FileTree :=
  match files.target (Path.ofText path) with
  | .ok (.socket other) => if other = inode then remove files path else files
  | _ => files

end Binding

end ControlChannel
