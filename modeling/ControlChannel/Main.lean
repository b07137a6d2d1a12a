import ControlChannel.CommandLine
import ControlChannel.Console
import ControlChannel.EnvFile.Grammar

/-!
# The program

A call of the program on the files and variables that it finds.  A service that the call starts
takes the commands of its clients from standard input, a line each, until it ends.

Nothing is decided here: the octets of the system are handed to `Machine.call` and
`Service.visit`, and what they show is written.
-/

namespace ControlChannel

namespace Program

/-- Writes a text to a stream. -/
def write (stream : IO.FS.Stream) (text : Text) : IO Unit := do
  stream.write ⟨(Utf8.encodeReplacing text).toArray⟩
  stream.flush

/-- The octets of a file, or none if it cannot be read. -/
def octetsOf (path : String) : IO Bytes := do
  try
    return (← IO.FS.readBinFile path).toList
  catch _ =>
    return []

/-- What lies at a path of the system; what is neither a directory nor a regular file is taken
for a socket that no one listens on. -/
def nodeAt (name : String) : IO (Option Node) := do
  let here ← IO.currentDir
  try
    match (← (here / name).metadata).type with
    | .dir => return some .directory
    | .other => return some (.socket 0)
    | _ => return some (.file (← octetsOf name))
  catch _ =>
    return none

/-- The file tree with what lies on the way to a path and at its end. -/
def look (files : FileTree) (path : Path) : IO FileTree :=
  (List.range path.names.length).foldlM
    (fun files n => do
      let part : Path := { path with names := path.names.take (n + 1) }
      let node? ← nodeAt (String.ofList (part.toText.map fun c => Char.ofNat c.val))
      match files.locate part, node? with
      | .ok place, some node => return files.put place node
      | _, _ => return files)
    files

/-- What the program finds when it starts. -/
def surroundings (argv0 : Text) : IO Surroundings := do
  let environment := Environment.ofBlock (← octetsOf "/proc/self/environ")
  let home := (environment.get? "HOME").getD "/"
  let temporary := (environment.nonempty? "TMPDIR").getD "/tmp"
  let session := (environment.get? sessionDirectoryVariable).getD []
  let paths := [(".env" : Text), home, temporary, session].map Path.ofText
  let files ← paths.foldlM look { entries := [] }
  let s : Surroundings := { environment, argv0, temporary, ownHome := home, homes := [], files }
  match s.load (some ".env") none with
  | .ok (config, _, _) => return { s with files := ← look files config.socketPath }
  | .error _ => return s

/-- The time, in seconds since an arbitrary start. -/
def now : IO Instant := return .real (Double.ofRatio false (← IO.monoMsNow) 1000)

/-- Serves the clients whose words stand on the lines of standard input. -/
partial def serveLines (s : Surroundings) (stdin stdout stderr : IO.FS.Stream)
    (service : Service) : IO Unit := do
  let line ← stdin.getLine
  if line.isEmpty || service.ended.isSome then return
  let words := (Text.splitOn ' ' (Text.trim (· = ('\n' : CodePoint)) line)).filter (! ·.isEmpty)
  let (finding, trace, service) :=
    service.visit s (← now) (.real fiveSeconds) (.forward (s.argv0 :: words))
  if let .relay relay := finding then
    write stdout relay.output
  for notice in trace.notices do
    write stderr (notice.line ++ ([0x0A] : Text))
  serveLines s stdin stdout stderr service

/-- A call of the program; its result is the exit status. -/
def run (arguments : List String) : IO UInt32 := do
  let (stdin, stdout, stderr) := (← IO.getStdin, ← IO.getStdout, ← IO.getStderr)
  let argv := ((← IO.appPath).toString :: arguments).map Text.ofString
  let s ← surroundings (argv.headD [])
  let setting : CallSetting :=
    { surroundings := s, pid := 1, now := ← now, side := .service, charset := .utf8 }
  match ({ files := s.files } : Machine).call setting argv with
  | .error fault =>
    write stderr (fault.message ++ ([0x0A] : Text))
    return 1
  | .ok (.ended outcome) =>
    write stdout outcome.screen.out
    write stderr outcome.screen.err
    match outcome.exit with
    | .status code => return .ofNat code.toNat
    | .launched code => return .ofNat code.toNat
    | .escaped error =>
      write stderr (error.message ++ ([0x0A] : Text))
      return 1
    | .waiting => return 1
  | .ok (.running service screen) =>
    write stdout screen.out
    write stderr screen.err
    serveLines s stdin stdout stderr service
    return 0

end Program

end ControlChannel

def main (arguments : List String) : IO UInt32 := ControlChannel.Program.run arguments
