import ControlChannel.Listener.Tenure
import ControlChannel.Service

/-!
# The run of a service

A service runs as long as its listener serves.  Each call of a command looks at the clock anew.

* `Surroundings.clockedDispatch` — the commands of a service, with what the clock tells each call;
* `Service.tenure`, `Service.after` — a service begins to serve, and what it has come to by now.
-/

namespace ControlChannel

/-- The commands of a service.  What the clock tells a call is given by the number of commands that
were handled before. -/
def Surroundings.clockedDispatch (s : Surroundings) (clock : Int → Instant) :
    Dispatch ServiceState Invocation :=
  { read := fun argv => (s.readCommand argv).mapError Refusal.text
    handle := fun state invocation => state.execute (clock state.commandsHandled) invocation }

namespace Service

/-- A service begins to serve. -/
def tenure (s : Service) : Tenure ServiceState :=
  { loop := { listener := s.site.listener }, files := s.site.machine.files }

/-- The service, with its serving so far.  Its run ends when that is over. -/
def after (s : Service) (t : Tenure ServiceState) : Service :=
  let site := { s.site with listener := t.loop.listener }.withFiles t.files
  if t.waited then { site := site.close, ended := some .finished } else { s with site }

end Service

end ControlChannel
