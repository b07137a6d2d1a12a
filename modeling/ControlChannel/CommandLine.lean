import ControlChannel.CommandLine.Waiting
import ControlChannel.Service

/-!
# The command line

One program is both the service and its remote control.  Every call first probes the socket: a
running instance is sent the whole argument vector; without one, `run` starts a service and
every other command fails.

* `ForkSide` — which of the two processes goes on after the service was moved to the background;
* `Call` — how far a call of the program has come: over, or a service that runs;
* `CallSetting.screen` — the screen that a call begins with;
* `Machine.call` — a call of the program.
-/

namespace ControlChannel

/-- The process that goes on after the move to the background. -/
inductive ForkSide
  /-- The one that launched the service, and waits until it answers. -/
  | launcher
  /-- The one that becomes the service. -/
  | service
  deriving DecidableEq

/-- How far a call of the program has come. -/
inductive Call
  | ended (outcome : Outcome)
  /-- A service runs, with what was shown before. -/
  | running (service : Service) (screen : Screen)

/-- What surrounds a call of the program besides its files. -/
structure CallSetting where
  surroundings : Surroundings
  pid : Int
  now : Instant
  side : ForkSide
  /-- The encoding of the stream that is written to. -/
  charset : Charset := .whole

/-- The screen that a call begins with. -/
def CallSetting.screen (setting : CallSetting) : Screen := { charset := setting.charset }

/-- What a service leaves after a call of the program that started it. -/
def Service.outcome (s : Service) (screen : Screen) : Outcome :=
  { exit := if s.ended.isSome then .status 0 else .waiting, screen, machine := s.site.machine }

/-- The command that starts a service. -/
def runCommand : Text := "run"

/-- Whether an invocation is of the command that starts a service. -/
def Invocation.isRun (i : Invocation) : Bool :=
  match i.command with
  | .str name => name = runCommand
  | _ => false

/-- The lines that tell that no instance runs. -/
def absenceLines (name : Text) : List Text :=
  [name ++ " is not running", "  Use '" ++ name ++ " run' to start it"]

/-- The lines that tell of a service that is moved to the background. -/
def launchLines (config : Config) : List Text :=
  ["Starting " ++ config.programName ++ " as daemon...",
    "  Control socket: " ++ config.socketPath.toText,
    "  Log file: " ++ config.logFile.toText]

/-- Shows why a vector is rejected: a help text on the first stream, a usage fault on the second. -/
def Screen.refuse (s : Screen) (refusal : Refusal) : Except ProgramFault Screen :=
  if refusal.status = 0 then s.write refusal.text else .ok (s.writeError refusal.text)

namespace Machine

/-- The machine with the log file of a service, which is made if it is not there. -/
def openLog (m : Machine) (path : Path) : Except ProgramFault Machine :=
  match m.files.openLog path with
  | .ok files => .ok { m with files }
  | .error fault => .error (.failure (.system fault))

variable [ConsoleLibrary]

/-- Runs a service, unless it cannot be started. -/
def serve (m : Machine) (setting : CallSetting) (console : ConsoleLibrary.Opened) (config : Config)
    (screen : Screen) : Except ProgramFault Call :=
  let service := (Service.ofConfig config setting.pid setting.now m).launch
  match service.ended with
  | some (.failed (.control (.alreadyRunning path pid))) =>
    (service.site.machine.complain screen console setting.surroundings.environment
      (.alreadyRunning path pid)).map .ended
  | some (.failed (.control error)) =>
    .ok (.ended { exit := .escaped error, screen, machine := service.site.machine })
  | some (.failed failure) => .error (.failure failure)
  | _ => .ok (.running service screen)

/-- Moves a service to the background. -/
def detach (m : Machine) (setting : CallSetting) (console : ConsoleLibrary.Opened) (config : Config)
    (screen : Screen) : Except ProgramFault Call := do
  let screen ← screen.printAll (launchLines config)
  match setting.side with
  | .launcher => do
    let outcome ← m.awaitDaemon screen setting.surroundings.environment config.programName
      config.socketPath.toText config.logFile.toText (.real config.connectTimeout)
    return .ended
      { outcome with
        exit := match outcome.exit with
          | .status code => .launched code
          | exit => exit }
  | .service => do (← m.openLog config.logFile).serve setting console config screen

/-- A call without a running instance. -/
def callAlone (m : Machine) (setting : CallSetting) (console : ConsoleLibrary.Opened)
    (config : Config) (argv : List Text) : Except ProgramFault Call :=
  let s := setting.surroundings
  match s.readCommand argv with
  | .error refusal => do
    let screen ← setting.screen.refuse refusal
    return .ended { exit := .status refusal.status, screen, machine := m }
  | .ok invocation =>
    if ! invocation.isRun then do
      let screen ← (absenceLines config.programName).foldlM
        (fun screen line => screen.tell console s.environment line) setting.screen
      return .ended { exit := .status 1, screen, machine := m }
    else if invocation.daemon = some true then
      m.detach setting console config setting.screen
    else m.serve setting console config setting.screen

/-- A call of the program.  The console for its own failures is opened before the file of
variables is read. -/
def call [EnvFile.Reader] (m : Machine) (setting : CallSetting) (argv : List Text) :
    Except ProgramFault Call := do
  let s := { setting.surroundings with files := m.files }
  let console ← (ConsoleLibrary.opened s.environment).mapError .console
  let (config, environment, _) ← (s.load (some ".env") none).mapError .config
  let setting := { setting with surroundings := { s with environment } }
  let _ ← (levelOf config.logLevel).mapError .log
  let path := config.socketPath.toText
  match m.probe path (.real config.connectTimeout) with
  | (.error (.control error), m) =>
    (m.complain setting.screen console environment error).map .ended
  | (.error failure, _) => .error (.failure failure)
  | (.ok (some _), m) => (m.send setting.screen environment path argv).map .ended
  | (.ok none, m) => m.callAlone setting console config argv

end Machine

end ControlChannel
