import ControlChannel.Clock
import ControlChannel.Delivery
import ControlChannel.Output.Handle

/-!
# One connection

Each connection carries exactly one request, whatever comes after it.

* `Dispatch` — a grammar of commands and a handler for them;
* `Served` — what a connection comes to: its writing end, what the log tells, and whether the
  service shall end;
* `Dispatch.engage`, `Dispatch.conduct` — a command and its handler, until the release is scheduled
  and until it is over: **packets, then exactly one terminal message**;
* `Dispatch.answer` — an argument vector with the connection that it came on, which is closed by
  whoever answers it;
* `Dispatch.serve` — the whole of a connection.  **What was not handed on is closed here.**
-/

namespace ControlChannel

/-- A grammar of commands and a handler for them, over facts that a command reads and changes. -/
structure Dispatch (Facts Command : Type) where
  /-- The command of an argument vector, or the text for the caller instead. -/
  read : List Text → Except Text Command
  handle : Facts → Command → HandlerRun × Facts

/-- What is set for all connections of a listener. -/
structure ServeSettings where
  pid : Int
  /-- The time that a client has for its request. -/
  requestTimeout : Instant
  /-- The time that the terminal message has, and again the closing. -/
  closeTimeout : Double
  deriving DecidableEq

/-- What a connection comes to, apart from the facts. -/
structure Served where
  /-- The writing end of the connection, with what was written. -/
  transport : Transport := {}
  /-- The results of the handler's sends. -/
  results : List Bool := []
  notices : List Notice := []
  /-- Whether the command asked for the service to end. -/
  terminates : Bool := false
  deriving DecidableEq

namespace Served

/-- The messages that were written, in order. -/
def frames (s : Served) : List Message := s.transport.taken

/-- The connection is closed. -/
def close (s : Served) : Served := { s with transport := s.transport.close }

end Served

/-- What is told to the client about a failure of a handler. -/
def HandlerFault.report : HandlerFault → Text
  | .protocol message => "protocol error: " ++ message ++ "\n"
  | fault => "error: " ++ fault.message ++ "\n"

/-- What the log tells about a failure of a handler. -/
def HandlerFault.notice (client : Text) : HandlerFault → Notice
  | .protocol message => .handlerBrokeProtocol client message
  | _ => .handlerFailed client

/-- What is done with an output handle behind a run: a failure is told, and the handle is closed. -/
def HandlerRun.closing (run : HandlerRun) : List Action :=
  match run.ending with
  | .returned _ => [.close]
  | .failed fault => [.send (.str fault.report), .close]

/-- The process id as a message, if it can travel. -/
def ServeSettings.idResponse (settings : ServeSettings) : Except ProtocolFault Message :=
  (Message.pidOf (.int settings.pid)).map .idResponse

namespace Dispatch

variable {Facts Command : Type}

/-- Tells the client why its arguments are no command, and closes the connection. -/
def rejected (client text : Text) : Served :=
  match OutputHandle.packetFor (.str text) with
  | .ok packet => Served.close { transport := (Transport.offer {} packet).2 }
  | .error fault => Served.close { notices := [.parseReportFailed client (.protocol fault)] }

/-- Runs a handler on a fresh output handle and closes it, which leaves the release scheduled.  The
service shall end if the handler returned the truth value `true` or asked for it on the way. -/
def engage (settings : ServeSettings) (client : Text) (run : HandlerRun) : Served × OutputHandle :=
  let handle : OutputHandle := { client, closeTimeout := settings.closeTimeout }
  let (results, handle, notices) := handle.actAll run.actions
  match run.ending with
  | .returned value =>
    let odd := if value.isBool then [] else [.handlerReturned client value.kindName]
    let terminates := value.isTrue || handle.shutdownRequested
    ({ transport := handle.transport, results, notices := notices ++ odd, terminates }, handle.close)
  | .failed fault =>
    let (_, handle, sending) := handle.send (.str fault.report)
    let notices := notices ++ fault.notice client :: sending
    ({ transport := handle.transport, results, notices, terminates := handle.shutdownRequested },
      handle.close)

/-- Runs a handler on a fresh output handle, closes it and lets the release run. -/
def conduct (settings : ServeSettings) (client : Text) (run : HandlerRun) : Served :=
  let (served, handle) := engage settings client run
  let (handle, closing) := handle.runRelease
  { served with transport := handle.transport, notices := served.notices ++ closing }

/-- Answers an argument vector: its command is conducted, which closes the connection. -/
def answer (d : Dispatch Facts Command) (settings : ServeSettings) (client : Text)
    (facts : Facts) (argv : List Text) : Served × Facts :=
  match d.read argv with
  | .error text => (rejected client text, facts)
  | .ok command =>
    let (run, facts) := d.handle facts command
    (conduct settings client run, facts)

/-- Replies to a request for the process id; no other message is a request. -/
def reply (settings : ServeSettings) (client : Text) : Message → Served
  | .idRequest =>
    match settings.idResponse with
    | .ok response => { transport := (Transport.offer {} response).2 }
    | .error _ => { notices := [.unhandled] }
  | other => { notices := [.unexpectedRequest client other.tag.name] }

/-- What a listener reads of a connection: without any time for it, nothing. -/
def heard (settings : ServeSettings) (delivery : Delivery) : Receipt :=
  if settings.requestTimeout.isAtMostZero then .silence else delivery.receive

/-- The command of a connection: that of its request, if this is an argument vector of one. -/
def command? (d : Dispatch Facts Command) (settings : ServeSettings) (delivery : Delivery) :
    Option Command :=
  match heard settings delivery with
  | .message (.args argv) _ => (d.read argv).toOption
  | _ => none

/-- Serves a connection.  It goes to the command with an argument vector; on every other way it is
closed here. -/
def serve (d : Dispatch Facts Command) (settings : ServeSettings) (client : Text) (facts : Facts)
    (delivery : Delivery) : Served × Facts :=
  match heard settings delivery with
  | .message (.args argv) _ => d.answer settings client facts argv
  | .message request _ => ((reply settings client request).close, facts)
  | .refused (.payload (.compositeTag _)) => (Served.close { notices := [.unhandled] }, facts)
  | .refused fault => (Served.close { notices := [.badRequest client fault] }, facts)
  | .broken => (Served.close { notices := [.brokenRequest client .connectionReset] }, facts)
  | .silence =>
    (Served.close { notices := [.silentClient client settings.requestTimeout.numeral] }, facts)

end Dispatch

end ControlChannel
