import ControlChannel.Listener.Binding
import ControlChannel.Listener.Connection
import ControlChannel.Shutdown

/-!
# The listener

A listener takes one connection after the other until its shutdown token is retired.

* `Listener` — the state: the bound socket file, the count of connections, the token, and the
  facts of the commands;
* `Listener.accept` — one connection, served to its end before the next one;
* `Listener.acceptAll` — connections in order.  **Nothing is served once the token is retired**.
-/

namespace ControlChannel

/-- A listener and the facts of its commands. -/
structure Listener (Facts : Type) where
  path : Text
  settings : ServeSettings
  facts : Facts
  /-- The inode of the socket file that was bound, until it is closed. -/
  inode : Option Nat := none
  /-- How many connections were accepted. -/
  connections : Nat := 0
  token : ShutdownToken := {}

namespace Listener

variable {Facts Command : Type}

/-- The reason of a retirement by a command. -/
def commandReason : Text := "terminate command received"

/-- Whether the listener is bound and accepts. -/
def isRunning (l : Listener Facts) : Bool := l.inode.isSome && ! l.token.retired

/-- The name of the client of the next connection. -/
def nextClient (l : Listener Facts) : Text := "ctl_" ++ Text.ofNat (l.connections + 1)

/-- Retires the token. -/
def retire (l : Listener Facts) (reason : Text) : Listener Facts :=
  { l with token := l.token.retire reason }

/-- Accepts a connection and serves it to its end. -/
def accept (d : Dispatch Facts Command) (l : Listener Facts) (delivery : Delivery) :
    Served × Listener Facts :=
  let (served, facts) := d.serve l.settings l.nextClient l.facts delivery
  let l := { l with facts, connections := l.connections + 1 }
  (served, if served.terminates then l.retire commandReason else l)

/-- Accepts connections in order; those that come after the token is retired are not served. -/
def acceptAll (d : Dispatch Facts Command) (l : Listener Facts) :
    List Delivery → List (Option Served) × Listener Facts
  | [] => ([], l)
  | delivery :: later =>
    if l.token.retired then
      let (results, l) := acceptAll d l later
      (none :: results, l)
    else
      let (served, l) := l.accept d delivery
      let (results, l) := acceptAll d l later
      (some served :: results, l)

/-- Binds the socket of a listener, given what a probe of its path finds. -/
def start (l : Listener Facts) (files : FileTree) (inode : Nat)
    (probed : Except Failure (Option Pid)) : Except Failure (Listener Facts) × FileTree :=
  match Binding.start files l.path inode probed with
  | (.ok (), files) => (.ok { l with inode := some inode }, files)
  | (.error failure, files) => (.error failure, files)

/-- Closes the socket and removes its file if it is still there. -/
def close (l : Listener Facts) (files : FileTree) : Listener Facts × FileTree :=
  match l.inode with
  | none => (l, files)
  | some inode => ({ l with inode := none }, Binding.close files l.path inode)

/-- What serving comes to as soon as the token is retired: the socket is closed. -/
def settle (l : Listener Facts) (files : FileTree) : Listener Facts × FileTree :=
  if l.token.retired then l.close files else (l, files)

end Listener

/-- What the client of a connection sees of what was written there, and of its end. -/
def Served.delivery (s : Served) : Delivery :=
  { bytes := s.frames.flatMap fun m => ((Frame.encode m).toOption).getD []
    manner := if s.transport.closes = 0 then .staysSilent else .hangsUp }

end ControlChannel
