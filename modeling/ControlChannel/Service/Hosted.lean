import ControlChannel.Service.Run

/-!
# Serving beside a host

The run of a service gathers two tasks, the serving of its listener and the work of its host.  It goes
on until both are over, or until the host fails: then the serving is broken off wherever it is.  In
the end the releases that are still under way are waited for once more, and the socket is closed.

* `Host`, `Host.outcome` — how the work of a host stands, and what a run comes to by it;
* `Interruption`, `Dispatch.brokenOff`, `Tenure.interrupt` — serving is broken off: **the socket is
  closed, a handler has its connection taken away, and all else that was accepted is closed**;
* `Hosted`, `Hosted.turn` — a run, and how it goes on;
* `Hosted.Move`, `Hosted.step`, `Hosted.run` — what happens, in any order.
-/

namespace ControlChannel

/-- How the work of a host stands.  A service without a host has one that returned. -/
inductive Host
  | working
  | returned
  | raised (message : Text)
  deriving DecidableEq

namespace Host

/-- What a run comes to with this host. -/
def outcome : Host → RunEnd
  | raised message => .hostFailed message
  | _ => .finished

/-- The work of a host ends once. -/
def finish (failure : Option Text) : Host → Host
  | working => failure.elim returned raised
  | host => host

end Host

/-! ### Serving is broken off -/

/-- How far a service that is broken off has come. -/
inductive Interruption
  /-- The request was not read. -/
  | reading
  /-- The request was read, and so many things were done about it. -/
  | answering (done : Nat)

/-- What is done with an output handle by a handler that is broken off after so many actions, the
report of a failure included: the handle is closed. -/
def HandlerRun.brokenOff (run : HandlerRun) (done : Nat) : List Action :=
  (run.actions ++ run.closing.dropLast).take done ++ [.close]

/-- What a service that is broken off leaves of its writing end, and the facts.  A refusal that is
being written when this happens leaves its connection open; a handler has begun its work, and has
come no further than a send that never ends. -/
def Dispatch.brokenOff {Facts Command : Type} (d : Dispatch Facts Command) (settings : ServeSettings)
    (client : Text) (facts : Facts) (connection : Connection) : Interruption → WritingEnd × Facts
  | .reading => (.shut { closes := 1 }, facts)
  | .answering done =>
    match heard settings connection.delivery with
    | .message (.args argv) _ =>
      match d.read argv with
      | .error text =>
        let transport := (rejectedThrough client connection.weather text).transport
        let writing : Bool := done = 0 || d.hangs settings client facts connection
        (.shut (if writing then { transport with closes := 0 } else transport), facts)
      | .ok command =>
        let (run, facts) := d.handle facts command
        let fresh := Course.fresh client settings.closeTimeout {}
        let reached := connection.weather.begun fresh (run.actions ++ run.closing.dropLast)
        (.handed (fresh.run (connection.weather.course (run.brokenOff (min done reached)))), facts)
    | _ => (.shut (d.serveThrough settings client facts connection).1.transport, facts)

namespace Tenure

variable {Facts Command : Type}

/-- Serving is broken off as long as its loop goes on. -/
def interrupt (d : Dispatch Facts Command) (t : Tenure Facts) (i : Interruption) : Tenure Facts :=
  let l := t.loop.listener
  let files := (l.close t.files).2
  match t.loop.stage with
  | .waiting => { t with loop := t.loop.finish, files }
  | .accepted _ => { t with loop := t.loop.finish, files, ends := t.ends ++ [.shut { closes := 1 }] }
  | .serving connection =>
    let (left, facts) := d.brokenOff l.settings l.nextClient l.facts connection i
    let loop := { t.loop with listener := { l with facts, connections := l.connections + 1 } }
    { t with loop := loop.finish, files, ends := t.ends ++ [left] }
  | .ended => t

/-- Waits for the releases that are under way, each for the time for closing, and closes the socket if
it is still open. -/
def windUp (t : Tenure Facts) : Tenure Facts :=
  let t := t.waitFor t.loop.listener.settings.closeTimeout
  let (listener, files) := t.loop.listener.close t.files
  { t with loop := { t.loop with listener }, files }

end Tenure

/-! ### The run -/

/-- Where the run of a service is. -/
inductive Hosted.Stage
  /-- It waits until the serving and the host are over, or the host has failed. -/
  | gathering
  /-- The host has failed, and the serving is to be broken off as soon as it gets to run. -/
  | cancelling
  /-- It waits for the serving to end. -/
  | unwinding
  /-- Serving is over, and so is the work of the host. -/
  | draining
  | ended (outcome : RunEnd)
  deriving DecidableEq

/-- The run of a service: its serving, its host, and where it is. -/
structure Hosted (Facts : Type) where
  tenure : Tenure Facts
  host : Host
  stage : Hosted.Stage := .gathering

namespace Hosted

/-- What happens during the run of a service. -/
inductive Move
  /-- Something happens to its serving. -/
  | serving (move : Tenure.Move)
  /-- The work of the host ends, with a failure or without one. -/
  | hostEnds (failure : Option Text)
  /-- Serving gets to run, and is broken off. -/
  | interrupt (i : Interruption)
  /-- Serving gets to run, and is not broken off after all: it was waiting for something, with a time
  limit, that has come just now. -/
  | evade
  /-- The run itself goes on. -/
  | turn

variable {Facts Command : Type}

/-- A run begins. -/
def begin (l : Listener Facts) (files : FileTree) (host : Host) : Hosted Facts :=
  { tenure := { loop := { listener := l }, files }, host }

/-- Whether serving goes on by itself. -/
def Stage.serves : Stage → Bool
  | gathering => true
  | unwinding => true
  | _ => false

/-- The run goes on.  A failure of the host is noticed at once, whether or not serving is over. -/
def turn (r : Hosted Facts) : Hosted Facts :=
  match r.stage with
  | .gathering =>
    match r.host with
    | .working => r
    | .returned => if r.tenure.waited then { r with stage := .draining } else r
    | .raised _ => { r with stage := if r.tenure.waited then .draining else .cancelling }
  | .cancelling => r
  | .unwinding => if r.tenure.waited then { r with stage := .draining } else r
  | .draining => { r with tenure := r.tenure.windUp, stage := .ended r.host.outcome }
  | .ended _ => r

/-- Serving that is to be broken off gets to run.  What waits for releases is broken off as well. -/
def breakOff (d : Dispatch Facts Command) (r : Hosted Facts) (i : Interruption) : Hosted Facts :=
  match r.stage, r.tenure.loop.stage with
  | .cancelling, .ended => { r with stage := .draining }
  | .cancelling, _ => { r with tenure := r.tenure.interrupt d i, stage := .unwinding }
  | _, _ => r

/-- Serving that is to be broken off gets to run, and what it waited for has come. -/
def evade (r : Hosted Facts) : Hosted Facts :=
  match r.stage, r.tenure.loop.stage with
  | .cancelling, .serving _ => { r with stage := .unwinding }
  | _, _ => r

/-- Something happens. -/
def step (d : Dispatch Facts Command) (r : Hosted Facts) : Move → Hosted Facts
  | .serving (.loop .turn) => if r.stage.serves then { r with tenure := r.tenure.turn d } else r
  | .serving move => { r with tenure := r.tenure.step d move }
  | .hostEnds failure => { r with host := r.host.finish failure }
  | .interrupt i => r.breakOff d i
  | .evade => r.evade
  | .turn => r.turn

/-- What happens, in order. -/
def run (d : Dispatch Facts Command) (r : Hosted Facts) (moves : List Move) : Hosted Facts :=
  moves.foldl (step d) r

@[simp] theorem run_nil (d : Dispatch Facts Command) (r : Hosted Facts) : r.run d [] = r := rfl

@[simp] theorem run_cons (d : Dispatch Facts Command) (r : Hosted Facts) (move : Move)
    (moves : List Move) : r.run d (move :: moves) = (r.step d move).run d moves := rfl

@[simp] theorem run_append (d : Dispatch Facts Command) (r : Hosted Facts)
    (moves later : List Move) : r.run d (moves ++ later) = (r.run d moves).run d later :=
  List.foldl_append

/-- What happens to the serving, in order. -/
def servingMoves (moves : List Move) : List Tenure.Move :=
  moves.filterMap fun
    | .serving move => some move
    | _ => none

end Hosted

/-- A service, with its run so far. -/
def Service.during (s : Service) (r : Hosted ServiceState) : Service :=
  { site := { s.site with listener := r.tenure.loop.listener }.withFiles r.tenure.files
    ended :=
      match r.stage with
      | .ended outcome => some outcome
      | _ => s.ended }

end ControlChannel
