import ControlChannel.Clock
import ControlChannel.Error
import ControlChannel.Json.Value

/-!
# What a command handler does

A handler is called with a command and an output handle.  All that the channel sees of it is
the list of what it does with the handle, and how it ends.

* `Action` — what a handler does with its output handle;
* `HandlerFault`, `Ending`, `HandlerRun` — how it ends, and the whole of a call.
-/

namespace ControlChannel

/-- What a handler does with its output handle. -/
inductive Action
  /-- Sends a value; only texts can be sent. -/
  | send (value : Json)
  | close
  /-- Asks for the service to end after this command. -/
  | requestShutdown

/-- Why a handler fails. -/
inductive HandlerFault
  | protocol (message : Text)
  /-- No command has this name; the name is given as it is shown. -/
  | unknownCommand (shown : Text)
  /-- A command lacks the field that it needs. -/
  | missingField (name : Text)
  | clock (fault : ClockFault)
  /-- A number has more digits than are ever written. -/
  | unwritten
  | other (message : Text)
  deriving DecidableEq

/-- The wording of a failure. -/
def HandlerFault.message : HandlerFault → Text
  | protocol message => message
  | unknownCommand shown => "Unknown command: " ++ shown
  | missingField name => "'Namespace' object has no attribute " ++ name.quoted
  | clock fault => fault.message
  | unwritten => Numeral.unwritten
  | other message => message

/-- How a handler ends: with a value, of which only the truth values mean something, or with a
failure. -/
inductive Ending
  | returned (value : Json)
  | failed (fault : HandlerFault)

/-- The whole of a call. -/
structure HandlerRun where
  actions : List Action
  ending : Ending

/-- Whether a value is the truth value `true` itself. -/
def Json.isTrue : Json → Bool
  | .bool value => value
  | _ => false

/-- Whether a value is a truth value. -/
def Json.isBool : Json → Bool
  | .bool _ => true
  | _ => false

end ControlChannel
