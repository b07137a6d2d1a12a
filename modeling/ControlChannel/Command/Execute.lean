import ControlChannel.Command
import ControlChannel.Handler

/-!
# What the commands do

The commands run inside the live instance and answer through the output handle of their call.

* `ServiceState` — the facts about the instance that `status` reports;
* `ServiceState.telling` — a call that answers, **as far as its answer can be written**;
* `ServiceState.execute` — the call for a command.  **Every command counts**, an unknown one
  too, and only `kill` returns `true`.
-/

namespace ControlChannel

/-- Live facts about a running instance. -/
structure ServiceState where
  programName : Text
  pid : Int
  startedAt : Instant
  commandsHandled : Int
  deriving DecidableEq

namespace ServiceState

/-- A call that sends some texts and ends. -/
def sending (texts : List Text) (ending : Ending) : HandlerRun :=
  { actions := texts.map fun text => .send (.str text), ending }

/-- A call that writes each of its texts once those before are sent, and fails at the first that
cannot be written. -/
def telling : List (Except HandlerFault Text) → Ending → HandlerRun
  | [], ending => { actions := [], ending }
  | .error fault :: _, _ => { actions := [], ending := .failed fault }
  | .ok text :: later, ending =>
    let run := telling later ending
    { run with actions := .send (.str text) :: run.actions }

/-- A numeral in an answer. -/
def numeral (n : Int) : Except HandlerFault Text :=
  ((Numeral.write? n).map .ok).getD (.error .unwritten)

/-- Since when the instance runs. -/
def uptime (s : ServiceState) (now : Instant) : Except HandlerFault Text := do
  let seconds ← ((now.since s.startedAt).truncate).mapError .clock
  ((uptimeText seconds).map .ok).getD (.error .unwritten)

/-- The name of a command as it is shown: a text as it is. -/
def shownName : Json → Text
  | .str text => text
  | other => other.display

/-- The call for `status`: who runs, since when, and how many commands were handled. -/
def status (s : ServiceState) (now : Instant) : HandlerRun :=
  telling
    [(numeral s.pid).map fun pid => s.programName ++ " is running (PID: " ++ pid ++ ")\n",
      (s.uptime now).map fun uptime => "  Uptime: " ++ uptime ++ "\n",
      (numeral s.commandsHandled).map fun count => "  Commands handled: " ++ count ++ "\n"]
    (.returned (.bool false))

/-- The call for a command of this name. -/
def call (s : ServiceState) (now : Instant) (i : Invocation) (name : Text) : HandlerRun :=
  let done : Ending := .returned (.bool false)
  if name = ("status" : Text) then s.status now
  else if name = ("ping" : Text) then sending ["pong\n"] done
  else if name = ("echo" : Text) then
    match i.text with
    | some words => sending [Text.joined " " words ++ "\n"] done
    | none => sending [] (.failed (.missingField "text"))
  else if name = ("run" : Text) then
    telling
      [(numeral s.pid).map fun pid => s.programName ++ " is already running (PID: " ++ pid ++ ")\n"]
      done
  else if name = ("kill" : Text) then sending ["Killing...\n"] (.returned (.bool true))
  else sending [] (.failed (.unknownCommand name))

/-- The call for a command, and the facts after it. -/
def execute (s : ServiceState) (now : Instant) (i : Invocation) : HandlerRun × ServiceState :=
  let s := { s with commandsHandled := s.commandsHandled + 1 }
  match i.command with
  | .str name => (s.call now i name, s)
  | other => (sending [] (.failed (.unknownCommand (shownName other))), s)

end ServiceState

end ControlChannel
