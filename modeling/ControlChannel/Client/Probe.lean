import ControlChannel.Clock
import ControlChannel.Delivery
import ControlChannel.Failure

/-!
# Probing

A client asks whether an instance listens on a socket, and for its process id.  What matters of
the world is the contact: why nothing could be connected to, or how the peer behaved.

* `Client.probeRequest` — all that a probe sends;
* `Client.probe` — the process id, or nothing where **nothing listens or the peer is gone without a
  word**; everything else that a peer does is a failure.
-/

namespace ControlChannel

/-- What trying to connect to an address gives: a refusal, or how the peer behaves. -/
abbrev Contact := Except OsFault Reply

namespace Client

/-- What a probe sends.  A time that is not a number is up as soon as there is a connection. -/
def probeRequest (timeout : Instant) : List Message :=
  if timeout.isNotANumber then [] else [.idRequest]

/-- The refusals that mean that nothing listens. -/
def meansAbsence : OsFault → Bool
  | .noEntry => true
  | .connectionRefused => true
  | .notDirectory => true
  | _ => false

/-- What the delivery of a peer says about its process id. -/
def pidOf (path : Text) (timeout : Instant) (delivery : Delivery) :
    Except Failure (Option Pid) :=
  match delivery.receive with
  | .message (.idResponse pid) _ => .ok (some pid)
  | .message other _ =>
    .error (.control (.protocol (.unexpectedAnswer path other.tag.name)))
  | .refused .closed => .ok none
  | .refused (.payload fault) => .error (.ofPayload fault)
  | .broken => .ok none
  | .silence => .error (.control (.unanswered path timeout.numeral))

/-- What a probe makes of a request that cannot be sent. -/
def unasked (path : Text) (timeout : Instant) : OsFault → Except Failure (Option Pid)
  | .connectionReset => .ok none
  | .connectionLost => .ok none
  | .brokenPipe => .ok none
  | .timedOut => .error (.control (.unanswered path timeout.numeral))
  | fault => .error (.control (.probeFailed path fault))

/-- What the behaviour of a peer says about its process id.  There is always room for a request of
this size, so that its sending is not waited for. -/
def ask (path : Text) (timeout : Instant) (reply : Reply) : Except Failure (Option Pid) :=
  match reply.intake with
  | .refused fault => unasked path timeout fault
  | _ => pidOf path timeout reply.toDelivery

/-- The process id of the instance that listens at a path, if one does. -/
def probe (path : Text) (timeout : Instant) (contact : Contact) : Except Failure (Option Pid) :=
  if timeout.isAtMostZero then .error (.control (.connectTimedOut path))
  else
    match contact with
    | .error fault =>
      if meansAbsence fault then .ok none else .error (.ofConnect (.unreachable path) path fault)
    | .ok reply =>
      if timeout.isNotANumber then .error (.control (.connectTimedOut path))
      else ask path timeout reply

end Client

end ControlChannel
