import ControlChannel.Listener
import ControlChannel.Output.Course

/-!
# Connections whose clients may go

A client may stop reading or be gone before it is answered, which the writing end of its connection
meets: writing or draining fails, draining hangs, and the release gets to run sooner or later.

* `Weather`, `Connection` — what the writing end meets in turn, and what a client delivers besides;
* `Weather.course`, `Weather.begun`, `Weather.conclude` — actions with what happens before each of
  them, how many of these are begun, and a course to its end;
* `Weather.write` — a single message, which is waited for;
* `Dispatch.conductThrough`, `Dispatch.serveThrough` — a command and its handler, and the whole of a
  connection;
* `Dispatch.hangs`, `Listener.hangsOn` — **a write that never ends** keeps its listener for ever;
* `Listener.acceptThrough` — a connection with its listener.

The release of a connection goes on while later ones are served.  **What it meets is its own**, so it
is told here to its end.
-/

namespace ControlChannel

/-- What the writing end of a connection meets before each thing that is done with it in turn, and
after the last one. -/
abbrev Weather := List (List Course.Chance)

namespace Weather

/-- Actions with what happens before each of them. -/
def course : Weather → List Action → List Course.Event
  | _, [] => []
  | weather, action :: actions =>
    (weather.headD []).map .chance ++ .act action :: course weather.tail actions

/-- How many of some actions are begun by an owner who waits for each of its sends. -/
def begun : Weather → Course → List Action → Nat
  | _, _, [] => 0
  | weather, c, action :: actions =>
    let met := c.run ((weather.headD []).map .chance)
    if met.hanging = 0 then begun weather.tail (met.act action) actions + 1 else 0

/-- The course of a handle from here to the end of its release, which hangs twice at most. -/
def conclude (weather : Weather) (c : Course) (actions : List Action) : Course :=
  let last : List Course.Chance := (weather.drop actions.length).flatten ++ [.settle, .expire, .expire]
  c.run (weather.course actions ++ last.map .chance)

/-- The faults that the writing end has from the first on. -/
def opening (weather : Weather) : Transport :=
  let modes := (weather.headD []).filterMap fun
    | .mode mode => some mode
    | _ => none
  { mode := modes.getLastD {} }

/-- How the first wait of a writing end is over, if it ever is: without a fault or with one. -/
def wakes (weather : Weather) : Option (Option OsFault) :=
  weather.tail.flatten.findSome? fun
    | .wake fault => some fault
    | _ => none

/-- A message that is written and waited for.  It is stuck if the wait is never over. -/
def write (weather : Weather) (m : Message) : Progress × Transport :=
  match weather.opening.offer m with
  | (.stuck, transport) =>
    match weather.wakes with
    | some none => (.done, transport)
    | some (some fault) => (.failed fault, transport)
    | none => (.stuck, transport)
  | written => written

/-- Whether a message that is written is waited for in vain. -/
def withholds (weather : Weather) (m : Message) : Bool := (weather.write m).1 = .stuck

end Weather

/-- What a client delivers, and what the writing end of its connection meets. -/
structure Connection where
  delivery : Delivery
  weather : Weather := []
  deriving DecidableEq

namespace Dispatch

variable {Facts Command : Type}

/-- Runs a handler on a fresh output handle and closes it.  Here each of its sends ends some time or
other. -/
def conductThrough (settings : ServeSettings) (client : Text) (weather : Weather)
    (run : HandlerRun) : Served :=
  let acted := (Course.fresh client settings.closeTimeout {}).run (weather.course run.actions)
  let later : Weather := weather.drop run.actions.length
  match run.ending with
  | .returned value =>
    let odd := if value.isBool then [] else [.handlerReturned client value.kindName]
    let ended := later.conclude { acted with notices := acted.notices ++ odd } [.close]
    { transport := ended.handle.transport, results := acted.results, notices := ended.notices
      terminates := value.isTrue || acted.handle.shutdownRequested }
  | .failed fault =>
    let told : Course := { acted with notices := acted.notices ++ [fault.notice client] }
    let ended := later.conclude told [.send (.str fault.report), .close]
    { transport := ended.handle.transport, results := acted.results, notices := ended.notices
      terminates := acted.handle.shutdownRequested }

/-- Tells the client why its arguments are no command, and closes the connection. -/
def rejectedThrough (client : Text) (weather : Weather) (text : Text) : Served :=
  match OutputHandle.packetFor (.str text) with
  | .error fault => Served.close { notices := [.parseReportFailed client (.protocol fault)] }
  | .ok packet =>
    match weather.write packet with
    | (.failed fault, transport) =>
      Served.close { transport, notices := [.parseReportFailed client (.system fault)] }
    | (_, transport) => Served.close { transport }

/-- Answers a request for the process id, and closes the connection. -/
def identifiedThrough (settings : ServeSettings) (client : Text) (weather : Weather) : Served :=
  match settings.idResponse with
  | .error _ => Served.close { notices := [.unhandled] }
  | .ok response =>
    match weather.write response with
    | (.failed fault, transport) =>
      Served.close { transport, notices := [.answerFailed client fault] }
    | (_, transport) => Served.close { transport }

/-- Serves a connection.  Where nothing is written, what the writing end meets does not matter. -/
def serveThrough (d : Dispatch Facts Command) (settings : ServeSettings) (client : Text)
    (facts : Facts) (connection : Connection) : Served × Facts :=
  match heard settings connection.delivery with
  | .message (.args argv) _ =>
    match d.read argv with
    | .error text => (rejectedThrough client connection.weather text, facts)
    | .ok command =>
      let (run, facts) := d.handle facts command
      (conductThrough settings client connection.weather run, facts)
  | .message .idRequest _ => (identifiedThrough settings client connection.weather, facts)
  | _ => d.serve settings client facts connection.delivery

/-- Whether serving a connection never ends, as something that is written on it is waited for in
vain. -/
def hangs (d : Dispatch Facts Command) (settings : ServeSettings) (client : Text) (facts : Facts)
    (connection : Connection) : Bool :=
  match heard settings connection.delivery with
  | .message (.args argv) _ =>
    match d.read argv with
    | .error text => (OutputHandle.packetFor (.str text)).toOption.any connection.weather.withholds
    | .ok command =>
      let run := (d.handle facts command).1
      let actions := run.actions ++ run.closing
      connection.weather.begun (.fresh client settings.closeTimeout {}) actions < actions.length
  | .message .idRequest _ => settings.idResponse.toOption.any connection.weather.withholds
  | _ => false

end Dispatch

namespace Listener

variable {Facts Command : Type}

/-- Whether a listener that serves a connection never comes to its end. -/
def hangsOn (d : Dispatch Facts Command) (l : Listener Facts) (connection : Connection) : Bool :=
  d.hangs l.settings l.nextClient l.facts connection

/-- Accepts a connection and serves it to its end. -/
def acceptThrough (d : Dispatch Facts Command) (l : Listener Facts) (connection : Connection) :
    Served × Listener Facts :=
  let (served, facts) := d.serveThrough l.settings l.nextClient l.facts connection
  let l := { l with facts, connections := l.connections + 1 }
  (served, if served.terminates then l.retire commandReason else l)

end Listener

end ControlChannel
