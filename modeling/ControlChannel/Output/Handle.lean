import ControlChannel.Decimal.Binary64
import ControlChannel.Handler
import ControlChannel.Notice
import ControlChannel.Output.Transport

/-!
# The output handle of a command

A handler streams its output through a handle.  Closing it writes the terminal message **in a
task of its own**, exactly once, and then releases the connection; failures on the way are
noticed in the log and never reach the handler.

* `ClosePhase`, `OutputHandle` — how far the release has come, and the state of a handle;
* `OutputHandle.send`, `OutputHandle.close`, `OutputHandle.requestShutdown` — what a handler does;
* `OutputHandle.runRelease`, `OutputHandle.expire` — the release gets to run, or its time is up;
* `OutputHandle.drain` — waits for the release, at most for a given time;
* `OutputHandle.awaitRelease` — the same where serving ends.  **Who has no time is told what is
  pending.**
-/

namespace ControlChannel

/-- Whether a time is above zero. -/
def Double.IsPositive (time : Double) : Prop := time.isAtMostZero = false ∧ time ≠ .nan

instance (time : Double) : Decidable time.IsPositive := inferInstanceAs (Decidable (_ ∧ _))

/-- What the log tells of releases that are still under way when serving ends. -/
def Notice.ofPending (count : Nat) : List Notice := if count = 0 then [] else [.closesPending count]

/-- How far the release of a connection has come. -/
inductive ClosePhase
  /-- Nothing was closed. -/
  | active
  /-- The release has not run yet; `broken` tells whether a send had failed before. -/
  | scheduled (broken : Bool)
  /-- The terminal message was taken, and draining it hangs; so much time is left. -/
  | notifying (left : Double)
  /-- The connection was closed, and waiting for its end hangs; so much time is left. -/
  | releasing (left : Double)
  | released
  deriving DecidableEq

/-- The output handle of one command. -/
structure OutputHandle where
  /-- The name of the client in the log. -/
  client : Text
  /-- The time that the terminal message has, and again the closing. -/
  closeTimeout : Double
  transport : Transport := {}
  /-- A send has failed. -/
  broken : Bool := false
  shutdownRequested : Bool := false
  packetsSent : Nat := 0
  phase : ClosePhase := .active
  deriving DecidableEq

namespace OutputHandle

/-- Whether the handle was closed. -/
def closed (h : OutputHandle) : Bool := h.phase ≠ .active

/-- Whether sends still reach the transport. -/
def connected (h : OutputHandle) : Bool := ! (h.closed || h.broken)

/-- How many releases are under way: one or none. -/
def pending (h : OutputHandle) : Nat :=
  match h.phase with
  | .active => 0
  | .released => 0
  | _ => 1

/-! ### What a handler does -/

/-- The packet for a value, if it is a text that a frame can hold. -/
def packetFor (value : Json) : Except ProtocolFault Message := do
  let text ← Message.packetOf value
  let _ ← Frame.encode (.packet text)
  return .packet text

/-- Sends a value.  Gives whether it was written, or nothing if the write never ends. -/
def send (h : OutputHandle) (value : Json) : Option Bool × OutputHandle × List Notice :=
  if h.closed then (some false, h, [.sentAfterClose h.client])
  else if h.broken then (some false, h, [])
  else
    match packetFor value with
    | .error fault => (some false, h, [.dropped h.client fault])
    | .ok packet =>
      match h.transport.offer packet with
      | (.done, transport) =>
        (some true, { h with transport, packetsSent := h.packetsSent + 1 }, [])
      | (.failed fault, transport) =>
        (some false, { h with transport, broken := true }, [.sendFailed h.client fault])
      | (.stuck, transport) => (none, { h with transport }, [])

/-- Closes the handle; the release is scheduled by the first call only. -/
def close (h : OutputHandle) : OutputHandle :=
  match h.phase with
  | .active => { h with phase := .scheduled h.broken }
  | _ => h

/-- Asks for the service to end after this command. -/
def requestShutdown (h : OutputHandle) : OutputHandle := { h with shutdownRequested := true }

/-- One action of a handler, with the result of a send. -/
def act (h : OutputHandle) : Action → Option Bool × OutputHandle × List Notice
  | .send value => h.send value
  | .close => (none, h.close, [])
  | .requestShutdown => (none, h.requestShutdown, [])

/-- Actions in order, with the results of the sends. -/
def actAll (h : OutputHandle) : List Action → List Bool × OutputHandle × List Notice
  | [] => ([], h, [])
  | action :: actions =>
    let (result, h, notices) := h.act action
    let (results, h, more) := actAll h actions
    (result.toList ++ results, h, notices ++ more)

/-! ### The release -/

/-- Closes the connection and waits for its end. -/
def release (h : OutputHandle) : OutputHandle :=
  let h := { h with transport := h.transport.close }
  if h.closeTimeout.isAtMostZero then { h with phase := .released }
  else
    match h.transport.waitClosed with
    | .stuck => { h with phase := .releasing h.closeTimeout }
    | _ => { h with phase := .released }

/-- Writes the terminal message, unless there is no time for it. -/
def notify (h : OutputHandle) : OutputHandle × List Notice :=
  if h.closeTimeout.isAtMostZero then (h.release, [.closeFailed h.client .timedOut])
  else
    match h.transport.offer .closeSocket with
    | (.done, transport) => (release { h with transport }, [])
    | (.failed fault, transport) =>
      (release { h with transport }, [.closeFailed h.client fault])
    | (.stuck, transport) => ({ h with transport, phase := .notifying h.closeTimeout }, [])

/-- Lets a scheduled release run until it is over or hangs. -/
def runRelease (h : OutputHandle) : OutputHandle × List Notice :=
  match h.phase with
  | .scheduled true => (h.release, [])
  | .scheduled false => h.notify
  | _ => (h, [])

/-- The time of a hanging step is up. -/
def expire (h : OutputHandle) : OutputHandle × List Notice :=
  match h.phase with
  | .notifying _ => (h.release, [.closeFailed h.client .timedOut])
  | .releasing _ => ({ h with phase := .released }, [])
  | _ => (h, [])

/-- The time that a hanging step has left. -/
def timeLeft (h : OutputHandle) : Option Double :=
  match h.phase with
  | .notifying left => some left
  | .releasing left => some left
  | _ => none

/-- Takes time from a hanging step. -/
def pass (h : OutputHandle) (time : Double) : OutputHandle :=
  match h.phase with
  | .notifying left => { h with phase := .notifying (left.sub time) }
  | .releasing left => { h with phase := .releasing (left.sub time) }
  | _ => h

/-- Waits through at most `steps` hanging steps of a release, no longer than `time` where that is
given; what remains is told in the log. -/
def waitThrough : Nat → OutputHandle → Option Double → OutputHandle × List Notice
  | 0, h, _ => (h, [])
  | steps + 1, h, time =>
    match h.timeLeft with
    | none => (h, [])
    | some left =>
      if time.any (·.lt left) then
        (h.pass (time.getD left), [.closesPending h.pending])
      else
        let (h, notices) := h.expire
        let (h, more) := waitThrough steps h (time.map (·.sub left))
        (h, notices ++ more)

/-- Waits for a release that is under way, no longer than `time` where that is given.  A release
hangs twice at most. -/
def drain (h : OutputHandle) (time : Option Double) : OutputHandle × List Notice :=
  let (h, notices) := h.runRelease
  let (h, more) := waitThrough 3 h time
  (h, notices ++ more)

/-- Waits for a release where serving ends.  A time that is not above zero is up before the release
gets anywhere. -/
def awaitRelease (h : OutputHandle) (time : Double) : OutputHandle × List Notice :=
  if time.IsPositive then h.drain (some time) else (h, Notice.ofPending h.pending)

/-- Uses the handle for some sends and closes it, whether or not what uses it fails. -/
def sendAllAndClose (h : OutputHandle) (values : List Json) : OutputHandle × List Notice :=
  let (_, h, notices) := h.actAll (values.map .send)
  (h.close, notices)

end OutputHandle

end ControlChannel
