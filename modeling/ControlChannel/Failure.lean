import ControlChannel.Frame.Reader

/-!
# Failures of an operation

Most failures are failures of the control channel.  The others are kept apart, because nothing
that handles the former handles them.
-/

namespace ControlChannel

/-- Why an operation fails. -/
inductive Failure
  | control (error : ControlError)
  /-- The system refuses a path, and no one makes a control failure of it. -/
  | system (fault : PathFault)
  /-- The tag of a message is a value that cannot even be looked up. -/
  | compositeTag (kind : Text)
  deriving DecidableEq

namespace Failure

/-- The wording of a failure. -/
def message : Failure → Text
  | control error => error.message
  | system fault => fault.message
  | compositeTag kind => (Message.PayloadFault.compositeTag kind).message

/-- A refused connection as a failure: one of the control channel, unless the address is no
path at all. -/
def ofConnect (told : OsFault → ControlError) (path : Text) (fault : OsFault) : Failure :=
  if fault.isTextual then system ⟨fault, path⟩ else control (told fault)

/-- A refused payload as a failure. -/
def ofPayload : Message.PayloadFault → Failure
  | .protocol fault => control (.protocol fault)
  | .compositeTag kind => compositeTag kind

/-- A failed read as a failure. -/
def ofRead : ReadFault → Failure
  | .closed => control .closedByPeer
  | .payload fault => ofPayload fault

end Failure

end ControlChannel
