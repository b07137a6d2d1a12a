import ControlChannel.Text.Digit
import ControlChannel.Text.Quoted

/-!
# Numerals of digits

* `Numeral.Fault` — why a text that should write a number does not;
* `Numeral.read` — the number that digits of any scripts write.  **A numeral may be too long to
  be read at all**, however many of its digits are zeros in front;
* `Numeral.write?` — the way back, where a number may be too long to be written.
-/

namespace ControlChannel

namespace Numeral

/-- Numerals of more digits than this are neither read nor written. -/
def mostDigits : Nat := 4300

/-- Why a text writes no number. -/
inductive Fault
  | notANumeral (text : Text)
  | tooManyDigits (count : Nat)
  deriving DecidableEq

/-- The most characters that are shown of what is not a numeral. -/
def longestShown : Nat := 200

/-- The wording of a text that writes no number. -/
def Fault.message : Fault → Text
  | notANumeral text =>
    "invalid literal for int() with base 10: " ++ text.quoted.take longestShown
  | tooManyDigits count =>
    "Exceeds the limit (" ++ Text.ofNat mostDigits
      ++ " digits) for integer string conversion: value has " ++ Text.ofNat count
      ++ " digits; use sys.set_int_max_str_digits() to increase the limit"

/-- The number that a text of decimal digits writes.  The digits in front are counted before
anything else is looked at. -/
def read (text : Text) : Except Fault Nat :=
  let digits := text.takeWhile fun c => c.decimalValue?.isSome
  if mostDigits < digits.length then .error (.tooManyDigits digits.length)
  else if digits.isEmpty || digits.length < text.length then .error (.notANumeral text)
  else .ok (digits.foldl (fun n c => 10 * n + c.decimalValue?.getD 0) 0)

/-- The numeral of a whole number, unless it would have too many digits. -/
def write? (n : Int) : Option Text :=
  if mostDigits < (Text.ofNat n.natAbs).length then none else some (Text.ofInt n)

/-- The wording of a number that is not written. -/
def unwritten : Text :=
  "Exceeds the limit (" ++ Text.ofNat mostDigits ++ " digits) for integer string conversion"
    ++ "; use sys.set_int_max_str_digits() to increase the limit"

end Numeral

end ControlChannel
