import ControlChannel.Output.Handle

/-!
# The course of an output handle

The owner of a handle sends, closes and leaves; meanwhile the faults of the transport change, a send
that hung goes on, and the release gets to run.  All of this comes in any order.

* `Course` — a handle, how many sends of it hang, and what was told so far;
* `Course.Chance`, `Course.Event` — what happens without the owner, and all that happens;
* `Course.act`, `Course.befall`, `Course.step`, `Course.run` — one event, and a run of them.

A send whose draining hangs has handed its message over.  **It may go on later or never**, and its
owner may do other things meanwhile.
-/

namespace ControlChannel

/-- The course of an output handle so far. -/
structure Course where
  handle : OutputHandle
  /-- How many sends hang. -/
  hanging : Nat := 0
  /-- The results of the sends that are over. -/
  results : List Bool := []
  notices : List Notice := []
  deriving DecidableEq

namespace Course

/-- What happens to an output handle without its owner. -/
inductive Chance
  /-- The transport has these faults from now on. -/
  | mode (mode : TransportMode)
  /-- A send that hung is over: it was written after all, or it fails. -/
  | wake (fault : Option OsFault)
  /-- The release gets to run. -/
  | settle
  /-- The time of a hanging step of the release is up. -/
  | expire
  deriving DecidableEq

/-- What happens to an output handle. -/
inductive Event
  /-- The owner does something with it. -/
  | act (action : Action)
  /-- The owner leaves the block that the handle is used in, after a failure or without one. -/
  | leave (fault : Option HandlerFault)
  | chance (chance : Chance)

/-- Whether an event closes the handle. -/
def Event.closes : Event → Bool
  | .act .close => true
  | .leave _ => true
  | _ => false

/-- The course of a new handle over a transport with some faults. -/
def fresh (client : Text) (closeTimeout : Double) (mode : TransportMode) : Course :=
  { handle := { client, closeTimeout, transport := { mode } } }

/-- The messages that the transport took. -/
def taken (c : Course) : List Message := c.handle.transport.taken

/-- The owner does something with the handle.  A send without a result hangs. -/
def act (c : Course) (action : Action) : Course :=
  let (result, handle, notices) := c.handle.act action
  { handle
    hanging := match action, result with
      | .send _, none => c.hanging + 1
      | _, _ => c.hanging
    results := c.results ++ result.toList
    notices := c.notices ++ notices }

/-- A send that hung is over. -/
def wake (c : Course) (fault : Option OsFault) : Course :=
  match c.hanging, fault with
  | 0, _ => c
  | hanging + 1, none =>
    { c with
      handle := { c.handle with packetsSent := c.handle.packetsSent + 1 }
      hanging
      results := c.results ++ [true] }
  | hanging + 1, some fault =>
    { handle := { c.handle with broken := true }
      hanging
      results := c.results ++ [false]
      notices := c.notices ++ [.sendFailed c.handle.client fault] }

/-- Something happens to the handle without its owner. -/
def befall (c : Course) : Chance → Course
  | .mode mode =>
    { c with handle := { c.handle with transport := { c.handle.transport with mode } } }
  | .wake fault => c.wake fault
  | .settle =>
    let (handle, notices) := c.handle.runRelease
    { c with handle, notices := c.notices ++ notices }
  | .expire =>
    let (handle, notices) := c.handle.expire
    { c with handle, notices := c.notices ++ notices }

/-- One event. -/
def step (c : Course) : Event → Course
  | .act action => c.act action
  | .leave _ => c.act .close
  | .chance chance => c.befall chance

/-- Events in order. -/
def run (c : Course) (events : List Event) : Course := events.foldl step c

@[simp] theorem run_nil (c : Course) : c.run [] = c := rfl

@[simp] theorem run_cons (c : Course) (event : Event) (events : List Event) :
    c.run (event :: events) = (c.step event).run events := rfl

@[simp] theorem run_append (c : Course) (events later : List Event) :
    c.run (events ++ later) = (c.run events).run later := List.foldl_append

end Course

end ControlChannel
