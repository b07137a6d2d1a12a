/-!
# Text: lists of code points

A text is a list of code points, lone surrogates included, because an argument vector or a
file name may hold bytes that no Unicode character stands for.  This file provides

* `CodePoint`, `Text` — the types, with coercions from `Char` and `String`;
* `Text.ofNat`, `Text.ofInt` — decimal numerals;
* `Text.hex` — fixed-width lower-case hexadecimal numerals;
* `Text.joined`, `Text.splitOn`, `Text.startsWith` — the few list operations the rest uses.
-/

namespace ControlChannel

/-- A Unicode code point; the surrogates U+D800 to U+DFFF are allowed to stand alone. -/
abbrev CodePoint := Fin 0x110000

/-- A text is the list of its code points. -/
abbrev Text := List CodePoint

/-- There are code points, so that a numeral can stand for one. -/
instance CodePoint.count_neZero : @NeZero Nat Zero.ofOfNat0 0x110000 := ⟨by decide⟩

namespace CodePoint

/-- The code point of a character. -/
def ofChar (c : Char) : CodePoint :=
  ⟨c.val.toNat, by
    rcases c.valid with h | ⟨_, h⟩
    · exact Nat.lt_trans h (by decide)
    · exact h⟩

instance : Coe Char CodePoint := ⟨ofChar⟩

/-- The code point with this number, and U+FFFD for a number beyond the last one. -/
def ofNat (n : Nat) : CodePoint := if h : n < 0x110000 then ⟨n, h⟩ else 0xFFFD

/-- A surrogate: half of a UTF-16 pair, which no encoding form may carry alone. -/
def isSurrogate (c : CodePoint) : Bool := 0xD800 ≤ c.val && c.val < 0xE000

/-- The first half of a surrogate pair. -/
def isHighSurrogate (c : CodePoint) : Bool := 0xD800 ≤ c.val && c.val < 0xDC00

/-- The second half of a surrogate pair. -/
def isLowSurrogate (c : CodePoint) : Bool := 0xDC00 ≤ c.val && c.val < 0xE000

/-- An ASCII digit `0` to `9`. -/
def isDigit (c : CodePoint) : Bool := 0x30 ≤ c.val && c.val ≤ 0x39

/-- The value of an ASCII digit. -/
def digitValue (c : CodePoint) : Nat := c.val - 0x30

/-- The ASCII digit of a value below ten. -/
def ofDigit (d : Nat) : CodePoint := ofNat (0x30 + d)

/-- The lower-case hexadecimal digit of a value below sixteen. -/
def ofHexDigit (d : Nat) : CodePoint := ofNat (if d < 10 then 0x30 + d else 0x57 + d)

/-- The value of a hexadecimal digit of either case. -/
def hexValue? (c : CodePoint) : Option Nat :=
  if c.isDigit then some c.digitValue
  else if 0x61 ≤ c.val && c.val ≤ 0x66 then some (c.val - 0x57)
  else if 0x41 ≤ c.val && c.val ≤ 0x46 then some (c.val - 0x37)
  else none

end CodePoint

namespace Text

/-- The code points of a string. -/
def ofString (s : String) : Text := s.toList.map CodePoint.ofChar

instance : Coe String Text := ⟨ofString⟩

/-- The decimal numeral of a number. -/
def ofNat (n : Nat) : Text := (Nat.toDigits 10 n).map CodePoint.ofChar

/-- The decimal numeral of an integer, with a minus sign in front of a negative one. -/
def ofInt : Int → Text
  | .ofNat n => ofNat n
  | .negSucc n => '-' :: ofNat (n + 1)

/-- The last `width` hexadecimal digits of a number, lower case. -/
def hex (width n : Nat) : Text :=
  (List.range width).map fun i => CodePoint.ofHexDigit (n / Nat.pow 16 (width - 1 - i) % 16)

/-- The texts one after the other with `separator` between two neighbours. -/
def joined (separator : Text) : List Text → Text
  | [] => []
  | first :: others => first ++ others.foldr (fun text rest => separator ++ (text ++ rest)) []

/-- What follows `first` in `text`, if `text` begins with it. -/
def dropFirst? : Text → Text → Option Text
  | [], text => some text
  | _ :: _, [] => none
  | c :: first, d :: text => if c = d then dropFirst? first text else none

/-- Whether `text` begins with `first`. -/
def startsWith (text first : Text) : Bool := (dropFirst? first text).isSome

/-- The pieces of a text between the places where `separator` stands; there is one more
piece than there are separators. -/
def splitOn (separator : CodePoint) (text : Text) : List Text :=
  let (last, done) := text.foldl
    (fun (piece, done) c => if c = separator then ([], piece.reverse :: done) else (c :: piece, done))
    (([], []) : Text × List Text)
  (last.reverse :: done).reverse

/-- The text without the code points at its end that satisfy `drop`. -/
def dropEndWhile (drop : CodePoint → Bool) (text : Text) : Text :=
  (text.reverse.dropWhile drop).reverse

/-- The text without the code points at either end that satisfy `drop`. -/
def trim (drop : CodePoint → Bool) (text : Text) : Text :=
  dropEndWhile drop (text.dropWhile drop)

/-- The number that a list of ASCII digits writes. -/
def digitsValue (digits : Text) : Nat := digits.foldl (fun n d => 10 * n + d.digitValue) 0

/-- The text with spaces added up to `width` code points. -/
def padRight (width : Nat) (text : Text) : Text :=
  text ++ List.replicate (width - text.length) (0x20 : CodePoint)

end Text

end ControlChannel
