import ControlChannel.Client.Probe

/-!
# Forwarding a command

A client sends its whole argument vector to the running instance and shows what comes back,
packet by packet, until the instance closes the stream.

* `Relay`, `RelayEnd` — the texts that were shown, and how it ended;
* `Client.forwardRequest` — all that is sent: one frame, or none if there is no such frame;
* `Client.forward` — the whole of it.  **What was shown stays shown**, however it ends.
-/

namespace ControlChannel

/-- How a relay ends. -/
inductive RelayEnd
  /-- The instance closed the stream. -/
  | closed
  | failed (failure : Failure)
  /-- The instance stays silent, or does not take what is sent, and the relay waits for ever. -/
  | waiting
  deriving DecidableEq

/-- What a client shows of a command that it forwards. -/
structure Relay where
  shown : List Text
  ending : RelayEnd
  deriving DecidableEq

namespace Relay

/-- All that is shown. -/
def output (r : Relay) : Text := r.shown.flatten

/-- A relay that ends before anything is shown. -/
def failing (failure : Failure) : Relay := { shown := [], ending := .failed failure }

end Relay

namespace Client

/-- What forwarding an argument vector sends. -/
def forwardRequest (argv : List Text) : List Message :=
  match Frame.encode (.args argv) with
  | .ok _ => [.args argv]
  | .error _ => []

/-- Shows packets until the stream is closed. -/
def relay (path : Text) (delivery : Delivery) : Relay :=
  match _ : delivery.receive with
  | .message (.packet text) rest =>
    let later := relay path rest
    { later with shown := text :: later.shown }
  | .message .closeSocket _ => { shown := [], ending := .closed }
  | .message other _ => .failing (.control (.protocol (.unexpectedFromServer other.tag.name)))
  | .refused fault => .failing (.ofRead fault)
  | .broken => .failing (.control (.connectionFailed path .connectionReset))
  | .silence => { shown := [], ending := .waiting }
termination_by delivery.bytes.length
decreasing_by exact Delivery.receive_length_lt (by assumption)

/-- Forwards an argument vector to the instance that listens at a path. -/
def forward (path : Text) (argv : List Text) (contact : Contact) : Relay :=
  match contact with
  | .error fault => .failing (.ofConnect (.notRunning path) path fault)
  | .ok reply =>
    match Frame.encode (.args argv) with
    | .error fault => .failing (.control (.protocol fault))
    | .ok _ =>
      match reply.intake with
      | .taken => relay path reply.toDelivery
      | .refused fault => .failing (.control (.connectionFailed path fault))
      | .stalled => { shown := [], ending := .waiting }

end Client

end ControlChannel
