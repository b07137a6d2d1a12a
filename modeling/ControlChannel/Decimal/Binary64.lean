import ControlChannel.Text.Basic

/-!
# Binary floating-point numbers of 64 bits

Seconds are measured with them: timeouts, the clock.  A finite number is a sign, a mantissa
below 2^53 and a power of two, so all arithmetic here is **exact arithmetic of naturals
followed by one rounding**.

* `Double` — finite numbers, the two infinities, and not-a-number;
* `Double.ofRatio` — the nearest double to a quotient, a tie going to the even mantissa;
* `Double.ofNumeral` — the nearest double to a decimal numeral;
* `Double.sub`, `Double.twice`, `Double.truncate?`, `Double.isAtMostZero`, `Double.lt` — what the clock
  needs.
-/

namespace ControlChannel

/-- A binary64 number; a finite one is `± mantissa · 2 ^ exponent`. -/
inductive Double
  | finite (negative : Bool) (mantissa : Nat) (exponent : Int)
  | infinite (negative : Bool)
  | nan
  deriving DecidableEq, Inhabited

namespace Double

/-- The least exponent; numbers below 2^52 times its power are subnormal. -/
def leastExponent : Int := -1074

/-- Zero with a sign. -/
def zeroOf (negative : Bool) : Double := .finite negative 0 leastExponent

/-- The quotient `num / den` rounded to a natural, a tie going to the even neighbour. -/
def divideToEven (num den : Nat) : Nat :=
  let q := num / den
  let r := num % den
  if 2 * r < den then q
  else if 2 * r = den then q + q % 2
  else q + 1

/-- The double nearest to `num / den`; a quotient beyond the largest one is infinite. -/
def ofRatio (negative : Bool) (num den : Nat) : Double :=
  if num = 0 || den = 0 then zeroOf negative
  else
    let guess : Int := num.log2 - den.log2 - 53
    let atExponent (e : Int) : Nat × Nat := (num * Nat.pow 2 (-e).toNat, den * Nat.pow 2 e.toNat)
    let (n, d) := atExponent guess
    let exponent := max leastExponent (if n / d < Nat.pow 2 53 then guess else guess + 1)
    let (n, d) := atExponent exponent
    let mantissa := divideToEven n d
    let (mantissa, exponent) :=
      if mantissa = Nat.pow 2 53 then (Nat.pow 2 52, exponent + 1) else (mantissa, exponent)
    if 971 < exponent then .infinite negative else .finite negative mantissa exponent

/-- The double nearest to an integer. -/
def ofInt (i : Int) : Double := ofRatio (i < 0) i.natAbs 1

/-- No number halfway between two doubles has more significant decimal digits than this. -/
def significantDigits : Nat := 800

/-- The double nearest to `± whole.fraction · 10 ^ exponent`, both parts given as ASCII
digits.  Digits past `significantDigits` only tell whether there is more than nothing. -/
def ofNumeral (negative : Bool) (whole fraction : Text) (exponent : Int) : Double :=
  let digits := (whole ++ fraction).dropWhile (· = ('0' : CodePoint))
  let kept := digits.take significantDigits
  let cut := digits.drop significantDigits
  let scale : Int := exponent - fraction.length + cut.length
  let value := Text.digitsValue kept
  if value = 0 then zeroOf negative
  else if 400 < scale then .infinite negative
  else if scale + kept.length < -400 then zeroOf negative
  else
    -- one more digit, which stands for all that were cut
    let value := 10 * value + (if cut.all (· = ('0' : CodePoint)) then 0 else 1)
    let scale := scale - 1
    ofRatio negative (value * Nat.pow 10 scale.toNat) (Nat.pow 10 (-scale).toNat)

/-- A finite double as an integer over a power of two. -/
def asRatio (negative : Bool) (mantissa : Nat) (exponent : Int) : Int × Nat :=
  let n := mantissa * Nat.pow 2 exponent.toNat
  (if negative then -(n : Int) else n, Nat.pow 2 (-exponent).toNat)

/-- The difference, rounded once; opposite infinities and not-a-number have none. -/
def sub : Double → Double → Double
  | .nan, _ => .nan
  | _, .nan => .nan
  | .infinite s, .infinite t => if s = t then .nan else .infinite s
  | .infinite s, .finite .. => .infinite s
  | .finite .., .infinite t => .infinite (! t)
  | .finite s m e, .finite t n f =>
    let (a, b) := asRatio s m e
    let (c, d) := asRatio t n f
    let difference := a * d - c * b
    if difference = 0 then zeroOf (s && ! t) else
      ofRatio (difference < 0) difference.natAbs (b * d)

/-- The sum, rounded once. -/
def add (x : Double) : Double → Double
  | .finite t n f => x.sub (.finite (! t) n f)
  | .infinite t => x.sub (.infinite (! t))
  | .nan => .nan

/-- Twice the number; beyond the largest one it is infinite, and exact otherwise. -/
def twice : Double → Double
  | .finite negative mantissa exponent =>
    if mantissa < Nat.pow 2 52 then .finite negative (2 * mantissa) exponent
    else if 971 ≤ exponent then .infinite negative
    else .finite negative mantissa (exponent + 1)
  | other => other

/-- The integer part of a finite double, rounded toward zero. -/
def truncate? : Double → Option Int
  | .finite negative mantissa exponent =>
    let n : Int := (mantissa * Nat.pow 2 exponent.toNat / Nat.pow 2 (-exponent).toNat : Nat)
    some (if negative then -n else n)
  | _ => none

/-- Whether the number is zero or below.  **Not-a-number is not.** -/
def isAtMostZero : Double → Bool
  | .finite negative mantissa _ => negative || mantissa = 0
  | .infinite negative => negative
  | .nan => false

/-- The strict order; not-a-number is in no relation to any number. -/
def lt : Double → Double → Bool
  | .nan, _ => false
  | _, .nan => false
  | .infinite s, .infinite t => s && ! t
  | .infinite s, .finite .. => s
  | .finite .., .infinite t => ! t
  | .finite s m e, .finite t n f =>
    let (a, b) := asRatio s m e
    let (c, d) := asRatio t n f
    a * d < c * b

end Double

end ControlChannel
