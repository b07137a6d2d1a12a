import ControlChannel.Address
import ControlChannel.Decimal.Reader
import ControlChannel.EnvFile
import ControlChannel.Notice
import ControlChannel.Text.UpperCase

/-!
# Settings

The settings come from the environment, then from a file of variables in the working directory,
then from defaults.

* `Config` — the settings;
* `Environment.seconds` — a timeout: **a number that is not zero or below, or the default**;
* `Surroundings.load` — the settings, with the environment that the file has added to.
-/

namespace ControlChannel

/-- The settings that a service and its clients share. -/
structure Config where
  programName : Text
  socketPath : Path
  logLevel : Text
  logFile : Path
  closeTimeout : Double
  connectTimeout : Double
  requestTimeout : Double
  deriving DecidableEq

/-- What the names of all variables of this program begin with. -/
def variablePrefix : Text := "HYPERMANGLE_"

/-- Two seconds. -/
def twoSeconds : Double := .ofInt 2

/-- Five seconds. -/
def fiveSeconds : Double := .ofInt 5

/-- A timeout that a variable sets, with what there is to say about it. -/
def Environment.seconds (e : Environment) (name : Text) (absent : Double) :
    Double × List Notice :=
  let full := variablePrefix ++ name
  match e.nonempty? full with
  | none => (absent, [])
  | some raw =>
    match Double.read? raw with
    | none => (absent, [.invalidSetting full raw])
    | some value =>
      if value.isAtMostZero then (absent, [.nonPositiveSetting full raw]) else (value, [])

/-- Why there are no settings. -/
inductive ConfigFault
  | address (fault : AddressFault)
  /-- The system refuses the path of the file of variables. -/
  | system (fault : PathFault)
  /-- The file of variables is not UTF-8. -/
  | undecodable (fault : Utf8.DecodeFault)
  | unsettable (fault : Environment.SetFault)
  deriving DecidableEq

/-- The wording of settings that cannot be had. -/
def ConfigFault.message : ConfigFault → Text
  | address fault => fault.message
  | system fault => fault.message
  | undecodable fault => fault.message
  | unsettable fault => fault.message

/-- The variable that turns the file of variables off. -/
def disablingVariable : Text := "PYTHON_DOTENV_DISABLED"

/-- The words that mean yes. -/
def affirmatives : List Text := ["1", "true", "t", "yes", "y"]

/-- A letter in lower case, with the long s as an s. -/
def foldCase (c : CodePoint) : CodePoint :=
  if c.val = 0x17F then 's'
  else if 0x41 ≤ c.val && c.val ≤ 0x5A then .ofNat (c.val + 0x20)
  else c

/-- Whether the file of variables is turned off. -/
def Environment.disablesFile (e : Environment) : Bool :=
  match e.get? disablingVariable with
  | some value => affirmatives.contains (value.map foldCase)
  | none => false

namespace Surroundings

/-- The environment with the variables of a file added, if the path leads to a file both by its
names and as it is written. -/
def withFile [EnvFile.Reader] (s : Surroundings) (path? : Option Text) :
    Except ConfigFault Environment :=
  match path?.filter (! ·.isEmpty) with
  | none => .ok s.environment
  | some path => do
    let found ← (s.files.find? (Path.ofText path)).mapError .system
    if found.isNone || s.environment.disablesFile then return s.environment
    else
      match s.files.reach path with
      | .ok (.file content) =>
        let text ← (Utf8.decode content).mapError .undecodable
        (s.environment.adopt (EnvFile.Reader.bindings text)).mapError .unsettable
      | _ => return s.environment

/-- The settings that the variables give. -/
def configure (s : Surroundings) (name? : Option Text) :
    Except AddressFault (Config × List Notice) := do
  let e := s.environment
  let name := s.nameOf name?
  let socketPath ← match e.nonempty? (variablePrefix ++ "SOCKET") with
    | some path => .ok (Path.ofText path)
    | none => s.socketPath (some name)
  let logFile ← match e.nonempty? (variablePrefix ++ "LOG_FILE") with
    | some path => .ok (Path.ofText path)
    | none => s.runtimeDirectory.map fun directory => directory.join (Path.ofText (name ++ ".log"))
  let (closeTimeout, closeNotices) := e.seconds "CLOSE_TIMEOUT" twoSeconds
  let (connectTimeout, connectNotices) := e.seconds "CONNECT_TIMEOUT" fiveSeconds
  let (requestTimeout, requestNotices) := e.seconds "REQUEST_TIMEOUT" fiveSeconds
  let config : Config :=
    { programName := name
      socketPath
      logLevel := ((e.get? (variablePrefix ++ "LOG_LEVEL")).getD "INFO").toUpper
      logFile
      closeTimeout
      connectTimeout
      requestTimeout }
  return (config, closeNotices ++ connectNotices ++ requestNotices)

/-- The settings, the environment that a file has added to, and what there is to say. -/
def load [EnvFile.Reader] (s : Surroundings) (envFile? name? : Option Text) :
    Except ConfigFault (Config × Environment × List Notice) := do
  let environment ← s.withFile envFile?
  let (config, notices) ← (configure { s with environment } name?).mapError .address
  return (config, environment, notices)

end Surroundings

end ControlChannel
