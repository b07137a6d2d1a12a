import ControlChannel.Output.Course

/-!
# Many handles and their releases

Closing a handle starts its release as a task of its own, and a set that all handles share holds the
task until it is over.  Here every fault is raised where it happens, and **what is not caught goes
on**: out of a send, or out of the task of a release.

* `Raised`, `Upshot` — what an operation raises, and how it ends;
* `Transport.writeFrame`, `OutputHandle.attempt` — a frame, and a send with what it does not catch;
* `Output` — the course of a handle, what got out of it, and how its release was over;
* `Output.closeUp`, `Output.beginRelease`, `Output.goOn` — the task of a release, from one wait to
  the next;
* `Outputs`, `Outputs.step`, `Outputs.run` — any number of handles over one set of pending releases.
-/

namespace ControlChannel

/-- What an operation of a writing end raises. -/
inductive Raised
  | protocol (fault : ProtocolFault)
  | system (fault : OsFault)
  /-- The time that an operation has is up. -/
  | timedOut
  deriving DecidableEq

/-- The faults of a delivery, which a release catches. -/
def Raised.delivery? : Raised → Option OsFault
  | protocol _ => none
  | system fault => some fault
  | timedOut => some .timedOut

/-- How an operation ends, unless it hangs. -/
inductive Upshot (α : Type)
  | returned (result : α)
  | raised (what : Raised)
  | hangs
  deriving DecidableEq

/-- Writes a message as a frame and waits until it is drained. -/
def Transport.writeFrame (t : Transport) (m : Message) : Upshot Unit × Transport :=
  match Frame.encode m with
  | .error fault => (.raised (.protocol fault), t)
  | .ok _ =>
    match t.offer m with
    | (.done, t) => (.returned (), t)
    | (.failed fault, t) => (.raised (.system fault), t)
    | (.stuck, t) => (.hangs, t)

namespace OutputHandle

/-- What a send makes of something that was raised below it.  It does not catch everything. -/
def rescue (h : OutputHandle) : Raised → Upshot Bool × OutputHandle × List Notice
  | .protocol fault => (.returned false, h, [.dropped h.client fault])
  | .system fault => (.returned false, { h with broken := true }, [.sendFailed h.client fault])
  | .timedOut => (.raised .timedOut, h, [])

/-- Sends a value, with what is raised below it. -/
def attempt (h : OutputHandle) (value : Json) : Upshot Bool × OutputHandle × List Notice :=
  if h.closed then (.returned false, h, [.sentAfterClose h.client])
  else if h.broken then (.returned false, h, [])
  else
    match Message.packetOf value with
    | .error fault => h.rescue (.protocol fault)
    | .ok text =>
      match h.transport.writeFrame (.packet text) with
      | (.returned (), transport) =>
        (.returned true, { h with transport, packetsSent := h.packetsSent + 1 }, [])
      | (.raised what, transport) => rescue { h with transport } what
      | (.hangs, transport) => (.hangs, { h with transport }, [])

end OutputHandle

/-- A handle with the task of its release. -/
structure Output where
  course : Course
  /-- What got out of its sends. -/
  escaped : List Raised := []
  /-- What its release goes on with when the connection is closed. -/
  held : Option Raised := none
  /-- With what its release was over, each time that it was. -/
  ends : List (Option Raised) := []
  deriving DecidableEq

namespace Output

/-- The handle of an output. -/
def handle (o : Output) : OutputHandle := o.course.handle

/-- The output with a changed handle, and with what is told in the log. -/
def withHandle (o : Output) (handle : OutputHandle) (notices : List Notice := []) : Output :=
  { o with course := { o.course with handle, notices := o.course.notices ++ notices } }

/-! ### What the owner does -/

/-- What a send comes to. -/
def tell (o : Output) : Upshot Bool × OutputHandle × List Notice → Output
  | (.returned result, handle, notices) =>
    let o := o.withHandle handle notices
    { o with course := { o.course with results := o.course.results ++ [result] } }
  | (.raised what, handle, notices) =>
    let o := o.withHandle handle notices
    { o with escaped := o.escaped ++ [what] }
  | (.hangs, handle, notices) =>
    let o := o.withHandle handle notices
    { o with course := { o.course with hanging := o.course.hanging + 1 } }

/-- A send that hung is over. -/
def wake (o : Output) (fault : Option OsFault) : Output :=
  match o.course.hanging, fault with
  | 0, _ => o
  | hanging + 1, none =>
    tell { o with course := { o.course with hanging } }
      (.returned true, { o.handle with packetsSent := o.handle.packetsSent + 1 }, [])
  | hanging + 1, some fault =>
    tell { o with course := { o.course with hanging } } (o.handle.rescue (.system fault))

/-! ### The task of a release -/

/-- The release is over. -/
def finish (o : Output) (result : Option Raised) : Output :=
  let o := o.withHandle { o.handle with phase := .released }
  { o with ends := o.ends ++ [result] }

/-- Waiting for the end of the connection is over, or raises something. -/
def closedUp (o : Output) : Option Raised → Output
  | none => o.finish o.held
  | some what =>
    match what.delivery? with
    | some _ => o.finish o.held
    | none => o.finish (some what)

/-- Closes the connection and waits for its end. -/
def closeUp (o : Output) : Output :=
  let o := o.withHandle { o.handle with transport := o.handle.transport.close }
  if o.handle.closeTimeout.isAtMostZero then o.closedUp (some .timedOut)
  else
    match o.handle.transport.waitClosed with
    | .done => o.closedUp none
    | .failed fault => o.closedUp (some (.system fault))
    | .stuck => o.withHandle { o.handle with phase := .releasing o.handle.closeTimeout }

/-- The terminal message was written, or something was raised.  **The connection is closed in any
case**; what is not caught goes on behind that. -/
def notified (o : Output) : Option Raised → Output
  | none => o.closeUp
  | some what =>
    match what.delivery? with
    | some fault => (o.withHandle o.handle [.closeFailed o.handle.client fault]).closeUp
    | none => closeUp { o with held := some what }

/-- Writes the terminal message. -/
def notify (o : Output) : Output :=
  if o.handle.closeTimeout.isAtMostZero then o.notified (some .timedOut)
  else
    match o.handle.transport.writeFrame .closeSocket with
    | (.returned (), transport) => (o.withHandle { o.handle with transport }).notified none
    | (.raised what, transport) => (o.withHandle { o.handle with transport }).notified (some what)
    | (.hangs, transport) =>
      o.withHandle { o.handle with transport, phase := .notifying o.handle.closeTimeout }

/-- A release that was scheduled gets to run. -/
def beginRelease (o : Output) : Output :=
  match o.handle.phase with
  | .scheduled true => o.notified none
  | .scheduled false => o.notify
  | _ => o

/-- A hanging step of the release is over, or raises something. -/
def goOn (o : Output) (what : Option Raised) : Output :=
  match o.handle.phase with
  | .notifying _ => o.notified what
  | .releasing _ => o.closedUp what
  | _ => o

/-- One event. -/
def step (o : Output) : Course.Event → Output
  | .act (.send value) => o.tell (o.handle.attempt value)
  | .act .close => o.withHandle o.handle.close
  | .act .requestShutdown => o.withHandle o.handle.requestShutdown
  | .leave _ => o.withHandle o.handle.close
  | .chance (.mode mode) =>
    o.withHandle { o.handle with transport := { o.handle.transport with mode } }
  | .chance (.wake fault) => o.wake fault
  | .chance .settle => o.beginRelease
  | .chance .expire => o.goOn (some .timedOut)

end Output

/-- Handles in the order in which they were opened, over one set of pending releases. -/
structure Outputs where
  outputs : List Output := []
  /-- The releases that are under way, each named by its handle. -/
  pending : List Nat := []
  deriving DecidableEq

/-- What happens to one of many handles. -/
inductive Happening
  | opens (client : Text) (closeTimeout : Double) (mode : TransportMode)
  | befalls (k : Nat) (event : Course.Event)
  /-- A hanging step of a release goes on before its time is up: it is done, or it fails. -/
  | resumes (k : Nat) (fault : Option OsFault)

/-- Whether a handle is closed by what happens. -/
def Happening.closes : Happening → Bool
  | .befalls _ event => event.closes
  | _ => false

namespace Outputs

/-- Changes one output.  A handle that gets closed adds its release to those that are pending, and a
release that is over discards itself. -/
def alter (s : Outputs) (k : Nat) (change : Output → Output) : Outputs :=
  match s.outputs[k]? with
  | none => s
  | some o =>
    let later := change o
    { outputs := s.outputs.set k later
      pending :=
        if ! o.handle.closed && later.handle.closed then s.pending ++ [k]
        else if o.ends.length < later.ends.length then s.pending.erase k
        else s.pending }

/-- Something happens. -/
def step (s : Outputs) : Happening → Outputs
  | .opens client closeTimeout mode =>
    { s with outputs := s.outputs ++ [{ course := .fresh client closeTimeout mode }] }
  | .befalls k event => s.alter k (·.step event)
  | .resumes k fault => s.alter k (·.goOn (fault.map .system))

/-- Things that happen in order. -/
def run (s : Outputs) (happenings : List Happening) : Outputs := happenings.foldl step s

@[simp] theorem run_nil (s : Outputs) : s.run [] = s := rfl

@[simp] theorem run_cons (s : Outputs) (happening : Happening) (happenings : List Happening) :
    s.run (happening :: happenings) = (s.step happening).run happenings := rfl

@[simp] theorem run_append (s : Outputs) (happenings later : List Happening) :
    s.run (happenings ++ later) = (s.run happenings).run later := List.foldl_append

end Outputs

end ControlChannel
