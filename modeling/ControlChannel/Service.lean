import ControlChannel.Command.Execute
import ControlChannel.Config
import ControlChannel.Site

/-!
# The service

A service runs the listener beside the work of its host, which is told by the shutdown token when
to end.

* `Surroundings.controlDispatch` — the commands of a service;
* `RunEnd`, `Service` — how a run ends, and the state of one;
* `Service.launch`, `Service.visit`, `Service.stop`, `Service.signal`, `Service.hostFails` — what
  happens to it.  **However a run ends, the socket is closed by then**.
-/

namespace ControlChannel

/-- The commands of a service at a time. -/
def Surroundings.controlDispatch (s : Surroundings) (now : Instant) :
    Dispatch ServiceState Invocation :=
  { read := fun argv => (s.readCommand argv).mapError Refusal.text
    handle := fun state invocation => state.execute now invocation }

/-- How the run of a service ends. -/
inductive RunEnd
  /-- The token was retired. -/
  | finished
  /-- The listener could not be started. -/
  | failed (failure : Failure)
  /-- The host failed. -/
  | hostFailed (message : Text)
  deriving DecidableEq

/-- A service, and how its run has ended if it has. -/
structure Service where
  site : Site ServiceState
  ended : Option RunEnd := none

namespace Service

/-- The reason of a retirement by the host. -/
def stopReason : Text := "stop requested"

/-- The service for these settings, before its run. -/
def ofConfig (config : Config) (pid : Int) (now : Instant) (machine : Machine) : Service :=
  let path := config.socketPath.toText
  { site :=
      { machine
        address := path
        listener :=
          { path
            settings :=
              { pid
                requestTimeout := .real config.requestTimeout
                closeTimeout := config.closeTimeout }
            facts :=
              { programName := config.programName
                pid
                startedAt := now
                commandsHandled := 0 } } } }

/-- The shutdown token. -/
def token (s : Service) : ShutdownToken := s.site.listener.token

/-- How many commands were handled. -/
def commandsHandled (s : Service) : Int := s.site.listener.facts.commandsHandled

/-- Ends the run once the token is retired. -/
def finish (s : Service) : Service :=
  if s.ended.isNone && s.token.retired then
    { site := s.site.settle, ended := some .finished }
  else s

/-- Begins the run. -/
def launch (s : Service) : Service :=
  match s.site.start with
  | (.ok (), site) => { s with site }.finish
  | (.error failure, site) => { site, ended := some (.failed failure) }

/-- A visit from outside. -/
def visit (s : Service) (surroundings : Surroundings) (now patience : Instant) (v : Visit) :
    Finding × Trace × Service :=
  let (finding, trace, site) := s.site.visit (surroundings.controlDispatch now) patience v
  (finding, trace, { s with site }.finish)

/-- Retires the token. -/
def retire (s : Service) (reason : Text) : Service :=
  { s with site := { s.site with listener := s.site.listener.retire reason } }.finish

/-- The host asks for the end. -/
def stop (s : Service) : Service := s.retire stopReason

/-- A signal arrives; nothing waits for it any more once the run has ended. -/
def signal (s : Service) (name : Text) : Service :=
  if s.ended.isSome then s else s.retire ("received " ++ name)

/-- The work of the host fails, which ends the run. -/
def hostFails (s : Service) (message : Text) : Service :=
  if s.ended.isSome then s else { site := s.site.close, ended := some (.hostFailed message) }

end Service

end ControlChannel
