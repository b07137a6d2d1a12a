import ControlChannel.Decimal.Binary64
import ControlChannel.Text.Blank
import ControlChannel.Text.Numeral

/-!
# Reading a number of seconds

The text of a setting is read as a double: blanks around it are skipped, digits of all scripts
count, an underscore may stand between two digits, and `inf`, `infinity` and `nan` are numbers
in any case of letters.

* `Double.read?` — the number a whole text writes;
* `readInteger?` — the same for an integer.
-/

namespace ControlChannel

namespace Double

/-- A text in ASCII: digits of other scripts become ASCII digits, other blanks become spaces. -/
def asciiForm (text : Text) : Text :=
  text.map fun c =>
    if c.val < 0x80 then c
    else if c.isBlank then ' '
    else
      match c.decimalValue? with
      | some d => CodePoint.ofDigit d
      | none => c

/-- The ASCII letters in lower case. -/
def lowered (text : Text) : Text :=
  text.map fun c => if 0x41 ≤ c.val && c.val ≤ 0x5A then .ofNat (c.val + 0x20) else c

/-- Whether each underscore stands between two digits; `previous` is what came before. -/
def underscoresFit (previous : Option CodePoint) : Text → Bool
  | [] => previous ≠ some '_'
  | c :: rest =>
    let fits :=
      if c = '_' then previous.any (·.isDigit)
      else previous ≠ some '_' || c.isDigit
    fits && underscoresFit (some c) rest

/-- The text without its underscores, if each of them stands between two digits. -/
def withoutUnderscores? (text : Text) : Option Text :=
  if underscoresFit none text then some (text.filter (· ≠ '_')) else none

/-- Splits a sign from the front. -/
def splitSign : Text → Bool × Text
  | [] => (false, [])
  | c :: rest =>
    if c = '-' then (true, rest)
    else if c = '+' then (false, rest)
    else (false, c :: rest)

/-- An exponent: empty, or `e` with an optional sign and at least one digit. -/
def exponent? : Text → Option Int
  | [] => some 0
  | e :: rest =>
    if e = 'e' then
      let (negative, digits) := splitSign rest
      if digits.isEmpty || ! digits.all (·.isDigit) then none
      else
        let n := Text.digitsValue digits
        some (if negative then -n else n)
    else none

/-- A number without sign: a special word, or digits with an optional point and exponent. -/
def unsigned? (negative : Bool) (text : Text) : Option Double :=
  if text = "inf" || text = "infinity" then some (.infinite negative)
  else if text = "nan" then some .nan
  else
    let whole := text.takeWhile (·.isDigit)
    let rest := text.dropWhile (·.isDigit)
    let (fraction, rest) : Text × Text :=
      match rest with
      | c :: after =>
        if c = '.' then (after.takeWhile (·.isDigit), after.dropWhile (·.isDigit)) else ([], rest)
      | [] => ([], [])
    if whole.isEmpty && fraction.isEmpty then none
    else (exponent? rest).map (ofNumeral negative whole fraction)

/-- The double that a text writes. -/
def read? (text : Text) : Option Double := do
  let plain ← withoutUnderscores? (Text.trim (·.isAsciiBlank) (asciiForm text))
  let (negative, digits) := splitSign (lowered plain)
  unsigned? negative digits

end Double

/-- The integer that a text writes, unless its numeral is too long. -/
def readInteger? (text : Text) : Option Int := do
  let plain ← Double.withoutUnderscores? (Text.trim (·.isAsciiBlank) (Double.asciiForm text))
  let (negative, digits) := Double.splitSign plain
  if digits.isEmpty || ! digits.all (·.isDigit) || Numeral.mostDigits < digits.length then none
  else
    let n := Text.digitsValue digits
    some (if negative then -n else n)

end ControlChannel
