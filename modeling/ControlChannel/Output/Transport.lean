import ControlChannel.Frame

/-!
# The writing end of a connection

* `TransportMode` — the faults of a transport: what writing, draining and closing do;
* `Transport` — the messages that it has taken, and how often it was closed;
* `Transport.offer` — gives it a message.  A fault in writing takes nothing; **a fault in
  draining comes after the message is taken**.
-/

namespace ControlChannel

/-- What the operations of a transport do. -/
structure TransportMode where
  /-- Writing fails, before anything is taken. -/
  write : Option OsFault := none
  /-- Draining fails, after the message is taken. -/
  drain : Option OsFault := none
  /-- Waiting for the end fails. -/
  closed : Option OsFault := none
  /-- Draining never ends. -/
  stalls : Bool := false
  /-- Waiting for the end never ends. -/
  stallsClosing : Bool := false
  deriving DecidableEq

/-- The writing end of a connection. -/
structure Transport where
  mode : TransportMode := {}
  /-- The messages that were taken, in order. -/
  taken : List Message := []
  /-- How often the connection was closed. -/
  closes : Nat := 0
  deriving DecidableEq

/-- How an operation of a transport ends. -/
inductive Progress
  | done
  | failed (fault : OsFault)
  | stuck
  deriving DecidableEq

namespace Transport

/-- Gives the transport a message. -/
def offer (t : Transport) (m : Message) : Progress × Transport :=
  match t.mode.write with
  | some fault => (.failed fault, t)
  | none =>
    let t := { t with taken := t.taken ++ [m] }
    if t.mode.stalls then (.stuck, t)
    else
      match t.mode.drain with
      | some fault => (.failed fault, t)
      | none => (.done, t)

/-- Closes the connection. -/
def close (t : Transport) : Transport := { t with closes := t.closes + 1 }

/-- How waiting for the end goes. -/
def waitClosed (t : Transport) : Progress :=
  if t.mode.stallsClosing then .stuck
  else
    match t.mode.closed with
    | some fault => .failed fault
    | none => .done

end Transport

end ControlChannel
