import ControlChannel.CommandLine.Screen
import ControlChannel.Machine

/-!
# Sending a command to the running instance

* `Surroundings.endpoint` — the address that is given, or the one derived for the program;
* `Exit`, `Outcome` — how a call of the program ends, and what it leaves;
* `Machine.send` — forwards an argument vector, shows what comes back, and ends with status 0
  exactly when the instance closed the stream.
-/

namespace ControlChannel

/-- The address that is given, or the one derived for the program that runs. -/
def Surroundings.endpoint (s : Surroundings) (given? : Option Text) : Except AddressFault Text :=
  match given? with
  | some (c :: rest) => .ok (c :: rest)
  | _ => (s.socketPath none).map (·.toText)

/-- How a call of the program ends. -/
inductive Exit
  | status (code : Int)
  /-- The launching process of a service in the background ends at once. -/
  | launched (code : Int)
  /-- A failure of the control channel that nothing handles. -/
  | escaped (error : ControlError)
  /-- The instance never answers to its end. -/
  | waiting
  deriving DecidableEq

/-- What a call of the program leaves. -/
structure Outcome where
  exit : Exit
  screen : Screen
  machine : Machine

namespace Machine

variable [ConsoleLibrary]

/-- Tells a failure on a console. -/
def complain (m : Machine) (screen : Screen) (console : ConsoleLibrary.Opened) (e : Environment)
    (error : ControlError) : Except ProgramFault Outcome :=
  (screen.tell console e (ConsoleLibrary.failure error.message)).map fun screen =>
    { exit := .status 1, screen, machine := m }

/-- Forwards an argument vector to an address and shows what comes back, each packet as it comes.  A
console is opened only for a failure. -/
def send (m : Machine) (screen : Screen) (e : Environment) (path : Text) (argv : List Text) :
    Except ProgramFault Outcome := do
  let (relay, m) := m.forward path argv
  let screen ← screen.writeAll relay.shown
  match relay.ending with
  | .closed => return { exit := .status 0, screen, machine := m }
  | .failed (.control error) => do
    let console ← (ConsoleLibrary.opened e).mapError .console
    m.complain screen console e error
  | .failed failure => .error (.failure failure)
  | .waiting => return { exit := .waiting, screen, machine := m }

end Machine

end ControlChannel
