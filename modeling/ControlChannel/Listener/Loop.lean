import ControlChannel.Listener.Weather

/-!
# The accept loop, turn by turn

The loop of a listener waits for a connection or for the token, looks at the token once more when it
has a connection, and serves that to its end before it waits again.  Clients connect, and the token is
retired from outside, at any time meanwhile.

* `Loop`, `Loop.Stage` — the listener, where its loop is, and who waits to be accepted;
* `Loop.turn` — the loop goes on by one stage.  **A service that has begun is not broken off**, even
  if it never ends, and what was accepted in the turn in which the token was retired is closed unread;
* `Loop.Move`, `Loop.step`, `Loop.run` — what happens, in any order;
* `Loop.AtRest` — nothing is left to do until something happens.
-/

namespace ControlChannel

/-- Where an accept loop is. -/
inductive Loop.Stage
  /-- It waits for a connection or for the token. -/
  | waiting
  /-- It has accepted a connection, and not looked at the token since. -/
  | accepted (connection : Connection)
  /-- It serves a connection: reads its request, and has its handler run. -/
  | serving (connection : Connection)
  /-- It is over, and the socket is closed. -/
  | ended
  deriving DecidableEq

/-- The accept loop of a listener. -/
structure Loop (Facts : Type) where
  listener : Listener Facts
  stage : Loop.Stage := .waiting
  /-- The connections that wait to be accepted, in order. -/
  backlog : List Connection := []
  /-- What came of the connections that were served, in order. -/
  served : List Served := []

namespace Loop

/-- What happens to an accept loop. -/
inductive Move
  | connect (connection : Connection)
  /-- The token is retired from outside. -/
  | retire (reason : Text)
  /-- The loop goes on. -/
  | turn

variable {Facts Command : Type}

/-- Ends the loop: the socket is closed, and who still waits there is turned away. -/
def finish (loop : Loop Facts) : Loop Facts :=
  { loop with listener := { loop.listener with inode := none }, stage := .ended, backlog := [] }

/-- The loop goes on by one stage. -/
def turn (d : Dispatch Facts Command) (loop : Loop Facts) : Loop Facts :=
  match loop.stage, loop.backlog with
  | .waiting, backlog =>
    if loop.listener.token.retired then loop.finish
    else
      match backlog with
      | [] => loop
      | connection :: later => { loop with stage := .accepted connection, backlog := later }
  | .accepted connection, _ =>
    if loop.listener.token.retired then loop.finish
    else { loop with stage := .serving connection }
  | .serving connection, _ =>
    if loop.listener.hangsOn d connection then loop
    else
      let (served, listener) := loop.listener.acceptThrough d connection
      { loop with listener, stage := .waiting, served := loop.served ++ [served] }
  | .ended, _ => loop

/-- Something happens.  No client connects to a closed socket. -/
def step (d : Dispatch Facts Command) (loop : Loop Facts) : Move → Loop Facts
  | .connect connection =>
    match loop.stage with
    | .ended => loop
    | _ => { loop with backlog := loop.backlog ++ [connection] }
  | .retire reason => { loop with listener := loop.listener.retire reason }
  | .turn => loop.turn d

/-- What happens, in order. -/
def run (d : Dispatch Facts Command) (loop : Loop Facts) (moves : List Move) : Loop Facts :=
  moves.foldl (step d) loop

@[simp] theorem run_nil (d : Dispatch Facts Command) (loop : Loop Facts) : loop.run d [] = loop := rfl

@[simp] theorem run_cons (d : Dispatch Facts Command) (loop : Loop Facts) (move : Move)
    (moves : List Move) : loop.run d (move :: moves) = (loop.step d move).run d moves := rfl

@[simp] theorem run_append (d : Dispatch Facts Command) (loop : Loop Facts) (moves later : List Move) :
    loop.run d (moves ++ later) = (loop.run d moves).run d later := List.foldl_append

/-- The connections that clients make, in order. -/
def arrivals (moves : List Move) : List Connection :=
  moves.filterMap fun
    | .connect connection => some connection
    | _ => none

/-- The messages that were written on the connections that were served, in order. -/
def frames (loop : Loop Facts) : List (List Message) := loop.served.map Served.frames

/-- Nothing is left to do: the loop is over, or it waits with no one to accept. -/
def AtRest (loop : Loop Facts) : Prop :=
  loop.stage = .ended ∨
    loop.stage = .waiting ∧ loop.backlog = [] ∧ loop.listener.token.retired = false

end Loop

end ControlChannel
