import ControlChannel.Listener.Loop

/-!
# Serving from the first connection to the last release

Beside the loop of a listener go the releases of the connections that went to a command; others may
change the files meanwhile.  When the loop ends, a connection that it has accepted and not begun is
closed, then the socket; only then are the releases waited for.

* `Dispatch.handOver` — a handler on the writing end of its connection, which is left with its release
  scheduled;
* `WritingEnd`, `Dispatch.writingEnd` — what a connection leaves of its writing end;
* `Tenure`, `Tenure.turn`, `Tenure.wait` — the loop with all that it leaves behind, and its end;
* `Tenure.Move`, `Tenure.step`, `Tenure.run` — what happens, in any order.

`Served` tells a connection to the end of its release at once.  Here **a release goes on as things
happen**, beside those of other connections.
-/

namespace ControlChannel

/-- The writing end of an accepted connection. -/
inductive WritingEnd
  /-- It was closed before the loop went on. -/
  | shut (transport : Transport)
  /-- It went to a command, and its release goes on by itself. -/
  | handed (course : Course)

namespace WritingEnd

/-- The transport of a writing end. -/
def transport : WritingEnd → Transport
  | shut transport => transport
  | handed course => course.handle.transport

/-- How many releases are under way. -/
def pending : WritingEnd → Nat
  | shut _ => 0
  | handed course => course.handle.pending

/-- Something happens to a writing end. -/
def befall (chance : Course.Chance) : WritingEnd → WritingEnd
  | shut transport => shut transport
  | handed course => handed (course.befall chance)

/-- Waits for a release that is under way, no longer than a given time. -/
def wait (time : Double) : WritingEnd → WritingEnd
  | shut transport => shut transport
  | handed course => handed { course with handle := (course.handle.drain (some time)).1 }

end WritingEnd

namespace Dispatch

variable {Facts Command : Type}

/-- Runs a handler on a fresh output handle and closes it. -/
def handOver (settings : ServeSettings) (client : Text) (weather : Weather) (run : HandlerRun) :
    Course :=
  (Course.fresh client settings.closeTimeout {}).run (weather.course (run.actions ++ run.closing))

/-- What serving a connection leaves of its writing end. -/
def writingEnd (d : Dispatch Facts Command) (settings : ServeSettings) (client : Text)
    (facts : Facts) (connection : Connection) : WritingEnd :=
  match heard settings connection.delivery with
  | .message (.args argv) _ =>
    match d.read argv with
    | .error text => .shut (rejectedThrough client connection.weather text).transport
    | .ok command => .handed (handOver settings client connection.weather (d.handle facts command).1)
  | _ => .shut (d.serveThrough settings client facts connection).1.transport

end Dispatch

/-- A listener that serves, with all that it leaves behind. -/
structure Tenure (Facts : Type) where
  loop : Loop Facts
  files : FileTree
  /-- The writing ends of the connections that were accepted, in order. -/
  ends : List WritingEnd := []
  /-- Whether the releases that were under way have been waited for: serving is over. -/
  waited : Bool := false
  /-- What the log tells of releases that were waited for in vain. -/
  notices : List Notice := []

namespace Tenure

/-- What happens while a listener serves. -/
inductive Move
  | loop (move : Loop.Move)
  /-- Something happens to the writing end of the connection with this number, from zero. -/
  | chance (k : Nat) (chance : Course.Chance)
  /-- Others change the files. -/
  | files (files : FileTree)

variable {Facts Command : Type}

/-- How many releases are under way. -/
def pending (t : Tenure Facts) : Nat := t.ends.foldr (·.pending + ·) 0

/-- Waits for the releases that are under way for a time, and tells which are left.  A time that is
not above zero is up at once. -/
def waitFor (t : Tenure Facts) (time : Double) : Tenure Facts :=
  let ends := if time.IsPositive then t.ends.map (.wait time) else t.ends
  { t with ends, notices := t.notices ++ Notice.ofPending { t with ends }.pending }

/-- Serving ends: the releases that are under way are waited for, each of which may spend the time
for closing twice. -/
def wait (t : Tenure Facts) : Tenure Facts :=
  let time := t.loop.listener.settings.closeTimeout
  if t.waited then t else { t.waitFor time.twice with waited := true }

/-- Serving goes on by one stage. -/
def turn (d : Dispatch Facts Command) (t : Tenure Facts) : Tenure Facts :=
  let loop := t.loop.turn d
  let l := t.loop.listener
  match t.loop.stage with
  | .waiting =>
    if l.token.retired then { t with loop, files := (l.close t.files).2 } else { t with loop }
  | .accepted _ =>
    if l.token.retired then
      { t with loop, files := (l.close t.files).2, ends := t.ends ++ [.shut { closes := 1 }] }
    else { t with loop }
  | .serving connection =>
    if l.hangsOn d connection then { t with loop }
    else { t with loop, ends := t.ends ++ [d.writingEnd l.settings l.nextClient l.facts connection] }
  | .ended => t.wait

/-- Something happens. -/
def step (d : Dispatch Facts Command) (t : Tenure Facts) : Move → Tenure Facts
  | .loop .turn => t.turn d
  | .loop move => { t with loop := t.loop.step d move }
  | .chance k chance => { t with ends := t.ends.modify k (.befall chance) }
  | .files files => { t with files }

/-- What happens, in order. -/
def run (d : Dispatch Facts Command) (t : Tenure Facts) (moves : List Move) : Tenure Facts :=
  moves.foldl (step d) t

@[simp] theorem run_nil (d : Dispatch Facts Command) (t : Tenure Facts) : t.run d [] = t := rfl

@[simp] theorem run_cons (d : Dispatch Facts Command) (t : Tenure Facts) (move : Move)
    (moves : List Move) : t.run d (move :: moves) = (t.step d move).run d moves := rfl

@[simp] theorem run_append (d : Dispatch Facts Command) (t : Tenure Facts)
    (moves later : List Move) : t.run d (moves ++ later) = (t.run d moves).run d later :=
  List.foldl_append

/-- The moves of the loop itself. -/
def loopMoves (moves : List Move) : List Loop.Move :=
  moves.filterMap fun
    | .loop move => some move
    | _ => none

end Tenure

end ControlChannel
