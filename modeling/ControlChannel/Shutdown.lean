import ControlChannel.Text.Basic

/-!
# The shutdown token

A signal that goes one way: once retired, a token stays retired for its first reason, whatever
comes later.

* `ShutdownToken` — the reason, once there is one, and how many wait for it;
* `ShutdownToken.retire`, `ShutdownToken.wait` — the two operations.
-/

namespace ControlChannel

/-- A token that tells everything that serves to stop. -/
structure ShutdownToken where
  /-- Why the token was retired, if it was. -/
  reason : Option Text := none
  /-- How many wait for the retirement. -/
  waiting : Nat := 0
  deriving DecidableEq

namespace ShutdownToken

/-- The reason of a retirement for which none is given. -/
def defaultReason : Text := "shutdown requested"

/-- Whether the token was retired. -/
def retired (t : ShutdownToken) : Bool := t.reason.isSome

/-- Retires the token and releases all that wait; **only the first call has an effect**. -/
def retire (t : ShutdownToken) (reason : Text) : ShutdownToken :=
  match t.reason with
  | some _ => t
  | none => { reason := some reason, waiting := 0 }

/-- Waits for the retirement, which does not take place any more on a retired token. -/
def wait (t : ShutdownToken) : ShutdownToken :=
  match t.reason with
  | some _ => t
  | none => { t with waiting := t.waiting + 1 }

end ShutdownToken

end ControlChannel
