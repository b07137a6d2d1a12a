import ControlChannel.CommandLine.Sending

/-!
# Waiting for a service in the background

The process that launches a service asks for it ten times a second until it answers or the time
is up, so that its exit status tells whether the start has worked.

* `Machine.awaitPid` — the process id, if an answer comes in time;
* `Machine.awaitDaemon` — the same as a call of the program.
-/

namespace ControlChannel

namespace Machine

variable [ConsoleLibrary]

/-- Whether there is still time for a question after so many tenths of a second. -/
def hasTime (timeout : Instant) (tenths : Nat) : Bool :=
  (Double.ofRatio false tenths 10).lt timeout.toDouble

/-- Asks up to `questions` times, the first of them after so many tenths of a second.  A failure
of the control channel is no answer, and a peer that stays silent takes all the time. -/
def awaitPid (m : Machine) (path : Text) (timeout : Instant) (tenths : Nat) :
    Nat → Except Failure (Option Pid) × Machine
  | 0 => (.ok none, m)
  | questions + 1 =>
    if hasTime timeout tenths then
      match m.probe path timeout with
      | (.ok (some pid), m) => (.ok (some pid), m)
      | (.error (.control (.unanswered ..)), m) => (.ok none, m)
      | (.error (.control _), m) => m.awaitPid path timeout (tenths + 1) questions
      | (.ok none, m) => m.awaitPid path timeout (tenths + 1) questions
      | (.error failure, m) => (.error failure, m)
    else (.ok none, m)

/-- The lines that tell that no service answers. -/
def silenceLines (name path log : Text) (timeout : Instant) : List Text :=
  ["[bold red]Error:[/bold red] " ++ ConsoleLibrary.escape name ++ " did not answer on "
      ++ ConsoleLibrary.escape path ++ " within " ++ timeout.numeral ++ "s",
    "  See " ++ ConsoleLibrary.escape log]

/-- Waits for the service of a program.  Once every process that listens now has given all its
replies, asking on would change nothing. -/
def awaitDaemon (m : Machine) (screen : Screen) (e : Environment) (name path log : Text)
    (timeout : Instant) : Except ProgramFault Outcome := do
  let console ← (ConsoleLibrary.opened e).mapError .console
  match m.awaitPid path timeout 0 (m.patience + 1) with
  | (.error failure, _) => .error (.failure failure)
  | (.ok (some pid), m) => do
    let screen ← screen.printAll [name ++ " started (PID: " ++ Text.ofNat pid.val ++ ")"]
    return { exit := .status 0, screen, machine := m }
  | (.ok none, m) => do
    let lines := silenceLines name path log timeout
    let screen ← lines.foldlM (fun s line => s.tell console e line) screen
    return { exit := .status 1, screen, machine := m }

end Machine

end ControlChannel
