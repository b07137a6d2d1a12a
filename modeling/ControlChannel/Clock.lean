import ControlChannel.Decimal.Shortest
import ControlChannel.Text.Numeral

/-!
# The clock

* `Instant` — seconds, as a whole number or as a double;
* `Instant.since`, `Instant.after` — differences and sums.  **Whole numbers stay exact**; as soon
  as one side is a double, both are;
* `Instant.truncate` — whole seconds, which not-a-number and the infinities do not have;
* `uptimeText` — a duration in days, hours, minutes and seconds, unless the days cannot be written.
-/

namespace ControlChannel

/-- Seconds on a clock, or between two instants. -/
inductive Instant
  | whole (seconds : Int)
  | real (seconds : Double)
  deriving DecidableEq

/-- Why seconds have no whole number. -/
inductive ClockFault
  | notANumber
  | infinite
  deriving DecidableEq

/-- The wording of seconds without a whole number. -/
def ClockFault.message : ClockFault → Text
  | notANumber => "cannot convert float NaN to integer"
  | infinite => "cannot convert float infinity to integer"

namespace Instant

/-- The seconds as a double. -/
def toDouble : Instant → Double
  | whole n => .ofInt n
  | real d => d

/-- The seconds as a numeral. -/
def numeral : Instant → Text
  | whole n => Text.ofInt n
  | real d => d.numeral

/-- Whether the seconds are zero or below; not-a-number is neither. -/
def isAtMostZero : Instant → Bool
  | whole n => n ≤ 0
  | real d => d.isAtMostZero

/-- Whether the seconds are not-a-number. -/
def isNotANumber : Instant → Bool
  | real .nan => true
  | _ => false

/-- The seconds from `start` to an instant. -/
def since (now start : Instant) : Instant :=
  match now, start with
  | whole n, whole m => whole (n - m)
  | n, m => real (n.toDouble.sub m.toDouble)

/-- The instant some seconds later. -/
def after (now seconds : Instant) : Instant :=
  match now, seconds with
  | whole n, whole m => whole (n + m)
  | n, m => real (n.toDouble.add m.toDouble)

/-- The whole seconds, rounded toward zero. -/
def truncate : Instant → Except ClockFault Int
  | whole n => .ok n
  | real .nan => .error .notANumber
  | real d =>
    match d.truncate? with
    | some n => .ok n
    | none => .error .infinite

end Instant

/-- A duration in its two or three leading units, each remainder taken toward negative
infinity. -/
def uptimeText (seconds : Int) : Option Text :=
  let minutes := seconds.fdiv 60
  let hours := minutes.fdiv 60
  let days := hours.fdiv 24
  let second := Text.ofInt (seconds.fmod 60) ++ "s"
  let minute := Text.ofInt (minutes.fmod 60) ++ "m"
  let hour := Text.ofInt (hours.fmod 24) ++ "h"
  if days ≠ 0 then
    (Numeral.write? days).map fun day => day ++ "d " ++ hour ++ " " ++ minute
  else if hours ≠ 0 then some (hour ++ " " ++ minute ++ " " ++ second)
  else if minutes ≠ 0 then some (minute ++ " " ++ second)
  else some second

end ControlChannel
