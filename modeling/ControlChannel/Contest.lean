import ControlChannel.Site

/-!
# Processes that contend for one path

Several processes start and close listeners on the same path.  Each of their steps on the file
tree is atomic, and between two steps of one process any others may come.

* `Stage` — how far a process has come, with the socket that it holds;
* `Stage.next` — its next step: a start looks at the path, probes, removes, makes directories,
  binds, sets permissions, listens and looks up its inode; a close closes the socket, compares
  inodes and removes;
* `Contest.contact` — whom a connection meets: the process that **listens on the socket file** that
  the path leads to;
* `Contest.step`, `Contest.run` — one process takes its next step, and a schedule of such moves.
-/

namespace ControlChannel

/-- How far a process has come with its listener. -/
inductive Stage
  /-- It has none: it was not started, could not be, or was closed to its end. -/
  | idle
  /-- It found a socket at the path, and probes it next. -/
  | found
  /-- Nothing answered its probe, and it removes what lies at the path next. -/
  | clearing
  /-- Nothing was in its way. -/
  | cleared
  /-- The directory of the path is there, and it binds next. -/
  | housed
  /-- It has bound its socket. -/
  | bound (inode : Nat)
  /-- Its socket file is for its owner alone, and it listens next. -/
  | guarded (inode : Nat)
  /-- It listens, and looks up the inode at the path next. -/
  | listening (inode : Nat)
  /-- It was started, and knows an inode for its own. -/
  | running (inode known : Nat)
  /-- It has closed its socket, and looks next for the inode that it knows. -/
  | closed (known : Nat)
  /-- It found that inode, and removes what lies at the path next. -/
  | leaving
  deriving DecidableEq

namespace Stage

/-- The socket that a process holds: one that was bound and not closed. -/
def holds? : Stage → Option Nat
  | bound inode => some inode
  | guarded inode => some inode
  | listening inode => some inode
  | running inode _ => some inode
  | _ => none

/-- The socket on which a process takes connections. -/
def listens? : Stage → Option Nat
  | listening inode => some inode
  | running inode _ => some inode
  | _ => none

/-- The next step of a process, given what a probe of the path would find now and the inode of a
new socket file.  One that is idle starts, and one that runs closes. -/
def next (path : Text) (files : FileTree) (probed : Except Failure (Option Pid)) (inode : Nat) :
    Stage → FileTree × Stage
  | idle =>
    match Binding.inspect files path with
    | .ok .nothing => (files, cleared)
    | .ok .socket => (files, found)
    | .error _ => (files, idle)
  | found =>
    match Binding.judge path probed with
    | .ok () => (files, clearing)
    | .error _ => (files, idle)
  | clearing => (Binding.remove files path, cleared)
  | cleared =>
    match files.makeParents (Path.ofText path) with
    | (.ok (), files) => (files, housed)
    | (.error _, files) => (files, idle)
  | housed =>
    match Binding.bind files path inode with
    | .ok files => (files, bound inode)
    | .error _ => (files, idle)
  | bound own =>
    match files.target (Path.ofText path) with
    | .ok _ => (files, guarded own)
    | .error _ => (files, idle)
  | guarded own => (files, listening own)
  | listening own =>
    match files.target (Path.ofText path) with
    | .ok (.socket known) => (files, running own known)
    | _ => (files, idle)
  | running _ known => (files, closed known)
  | closed known =>
    match files.target (Path.ofText path) with
    | .ok (.socket other) => (files, if other = known then leaving else idle)
    | _ => (files, idle)
  | leaving => (Binding.remove files path, idle)

end Stage

/-- What is common to processes that contend for a path. -/
structure Rivals (n : Nat) where
  path : Text
  /-- The time that a probe allows. -/
  timeout : Instant
  pid : Fin n → Pid

/-- The file tree, and how far each process has come. -/
structure Contest (n : Nat) where
  files : FileTree
  stage : Fin n → Stage

/-- A process takes its next step; a socket file that it binds gets this inode. -/
structure Move (n : Nat) where
  process : Fin n
  inode : Nat := 0

namespace Contest

variable {n : Nat}

/-- Whom a connection to the path meets; such a process answers a probe. -/
def contact (r : Rivals n) (c : Contest n) : Contact :=
  match c.files.socketAt r.path with
  | .error fault => .error fault
  | .ok inode =>
    match (List.finRange n).find? fun p => (c.stage p).listens? = some inode with
    | some p => .ok (Delivery.ofMessages [.idResponse (r.pid p)])
    | none => .error .connectionRefused

/-- The contest with this file tree, and one process come so far. -/
def put (c : Contest n) (p : Fin n) (outcome : FileTree × Stage) : Contest n :=
  { files := outcome.1, stage := fun q => if q = p then outcome.2 else c.stage q }

/-- A process takes its next step. -/
def step (r : Rivals n) (c : Contest n) (m : Move n) : Contest n :=
  let probed := Client.probe r.path r.timeout (c.contact r)
  c.put m.process ((c.stage m.process).next r.path c.files probed m.inode)

/-- The moves of a schedule in order. -/
def run (r : Rivals n) (c : Contest n) (schedule : List (Move n)) : Contest n :=
  schedule.foldl (step r) c

/-- Whether something holds of each move of a schedule where it is taken. -/
def Always (r : Rivals n) (holds : Contest n → Move n → Prop) (c : Contest n) :
    List (Move n) → Prop
  | [] => True
  | m :: later => holds c m ∧ Always r holds (c.step r m) later

instance decidableAlways (r : Rivals n) (holds : Contest n → Move n → Prop)
    [∀ c m, Decidable (holds c m)] :
    ∀ (c : Contest n) (schedule : List (Move n)), Decidable (Always r holds c schedule)
  | _, [] => inferInstanceAs (Decidable True)
  | c, m :: later =>
    @instDecidableAnd _ _ _ (decidableAlways r holds (c.step r m) later)

/-- A new socket file has an inode that neither a socket file nor a socket in use has. -/
def Fresh (c : Contest n) (m : Move n) : Prop :=
  c.stage m.process = .housed →
    (∀ p, (c.stage p).holds? ≠ some m.inode) ∧
      ∀ entry ∈ c.files.entries, entry.2 ≠ .socket m.inode

instance (c : Contest n) (m : Move n) : Decidable (Fresh c m) :=
  inferInstanceAs (Decidable (_ → _ ∧ _))

end Contest

end ControlChannel
