import ControlChannel.Decimal.Binary64

/-!
# The shortest decimal of a double

A double is written with **the fewest digits that read back**, and of those with the digits
nearest to its value.  The reals that round to a double form an interval around it, ends
included exactly when its mantissa is even; on each decimal grid only the two neighbours of
the value need a look, because a grid point in the interval implies that a neighbour is in it.

* `Double.shortest` — the digits and the place of the point;
* `Double.numeral` — the text: positional notation for moderate sizes, else an exponent.
-/

namespace ControlChannel

namespace Double

/-- Digits `d₁d₂…` and a place `p`, for the number `0.d₁d₂… · 10 ^ p`. -/
structure Digits where
  digits : Text
  point : Int

/-- The interval of a positive double in quarter units of its last binary place: lower end,
value, upper end, over a common denominator. -/
structure Interval where
  low : Nat
  value : Nat
  high : Nat
  den : Nat
  closed : Bool

/-- The reals that round to `mantissa · 2 ^ exponent`. -/
def interval (mantissa : Nat) (exponent : Int) : Interval :=
  let below := if mantissa = Nat.pow 2 52 && exponent ≠ leastExponent then 1 else 2
  let scale := Nat.pow 2 (exponent - 2).toNat
  { low := (4 * mantissa - below) * scale
    value := 4 * mantissa * scale
    high := (4 * mantissa + 2) * scale
    den := Nat.pow 2 (2 - exponent).toNat
    closed := mantissa % 2 = 0 }

/-- Whether `point / den` lies in the interval, given with the same scaling of its ends. -/
def within (closed : Bool) (low point high : Nat) : Bool :=
  if closed then low ≤ point && point ≤ high else low < point && point < high

/-- The multiple of `10 ^ unit` in the interval that is nearest to the value, if there is one;
of two equally near ones the even. -/
def onGrid? (i : Interval) (unit : Int) : Option Nat :=
  let up := Nat.pow 10 (-unit).toNat
  let step := i.den * Nat.pow 10 unit.toNat
  let low := i.low * up
  let value := i.value * up
  let high := i.high * up
  let q := value / step
  let lower := within i.closed low (q * step) high
  let upper := within i.closed low ((q + 1) * step) high
  if lower && upper then
    let d := value - q * step
    let e := (q + 1) * step - value
    some (if d < e || (d = e && q % 2 = 0) then q else q + 1)
  else if lower then some q
  else if upper then some (q + 1)
  else none

/-- The place `p` with `10 ^ (p - 1) ≤ value < 10 ^ p`, near its estimate from the logarithm
to base two. -/
def magnitude (i : Interval) : Int :=
  let binary : Int := (i.value.log2 : Int) - i.den.log2
  let guess : Int := binary * 1233 / 4096 - 1
  let below (p : Int) : Bool := i.value * Nat.pow 10 (-p).toNat < i.den * Nat.pow 10 p.toNat
  match [0, 1, 2, 3].find? fun k => below (guess + k) with
  | some k => guess + k
  | none => guess + 4

/-- The fewest digits that read back as this positive double. -/
def shortest (mantissa : Nat) (exponent : Int) : Digits :=
  let i := interval mantissa exponent
  let p := magnitude i
  let hit := (List.range 17).findSome? fun (k : Nat) =>
    let unit : Int := p - (k + 1)
    (onGrid? i unit).map fun n => (Text.ofNat n, unit)
  match hit with
  | some (digits, unit) => { digits, point := digits.length + unit }
  | none => { digits := Text.ofNat mantissa, point := 0 }

/-- How a number is laid out as text: for which places of the point without an exponent, and
how many digits an exponent has at least. -/
structure Layout where
  leastPositional : Int
  mostPositional : Int
  exponentDigits : Nat

/-- Numbers from 0.0001 to below 10^16 are written without an exponent; an exponent has a sign
and two digits or more. -/
def layout : Layout := ⟨-3, 16, 2⟩

/-- Digits laid out: without an exponent there is always a point with a digit on either side. -/
def Digits.render (f : Layout) (d : Digits) : Text :=
  if f.leastPositional ≤ d.point && d.point ≤ f.mostPositional then
    if d.point ≤ 0 then "0." ++ List.replicate (-d.point).toNat ('0' : CodePoint) ++ d.digits
    else
      let before := d.point.toNat
      let whole := d.digits.take before
        ++ List.replicate (before - d.digits.length) ('0' : CodePoint)
      let fraction := d.digits.drop before
      whole ++ "." ++ (if fraction.isEmpty then ("0" : Text) else fraction)
  else
    let e := d.point - 1
    let size := Text.ofNat e.natAbs
    let fraction := d.digits.drop 1
    d.digits.take 1 ++ (if fraction.isEmpty then ([] : Text) else "." ++ fraction)
      ++ (if e < 0 then ("e-" : Text) else "e+")
      ++ List.replicate (f.exponentDigits - size.length) ('0' : CodePoint) ++ size

/-- The numeral of a double. -/
def numeral : Double → Text
  | .nan => "nan"
  | .infinite negative => if negative then "-inf" else "inf"
  | .finite negative mantissa exponent =>
    let sign : Text := if negative then "-" else []
    if mantissa = 0 then sign ++ "0.0"
    else
      let d := shortest mantissa exponent
      let trimmed := { d with digits := Text.dropEndWhile (· = ('0' : CodePoint)) d.digits }
      sign ++ trimmed.render layout

end Double

end ControlChannel
