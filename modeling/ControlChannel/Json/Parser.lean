import ControlChannel.Json.Value
import ControlChannel.Text.Numeral

/-!
# Reading JSON

A reader takes a text and gives a value with the text that is left; a fault carries the text
that was left where it was found, from which its line and column follow.

* `Json.Cause`, `Json.Fault` — what can be wrong;
* `Json.stringBody`, `Json.number`, `Json.items`, `Json.value` — readers;
* `Json.parse` — a whole text, with blanks around one value;
* `Json.Error.message` — the wording of a refusal.

Values nest as deep as the interpreter that reads lets them (`Json.Depth`), which makes the recursion
structural.
-/

namespace ControlChannel

namespace Json

/-- What is wrong at a place of a text. -/
inductive Cause
  | byteOrderMark
  | expectingValue
  | expectingName
  | expectingColon
  | expectingComma
  | unterminatedString
  | controlCharacter
  | badEscape
  | badUnicodeEscape
  | extraData
  deriving DecidableEq

/-- A fault: a cause with the text from its place on, or a limit that was passed. -/
inductive Fault
  | here (cause : Cause) (rest : Text)
  | tooDeep
  | tooManyDigits (count : Nat)
  deriving DecidableEq

/-- The blanks between tokens. -/
def isBlank (c : CodePoint) : Bool := c = ' ' || c = '\t' || c = '\n' || c = '\r'

/-- The text after the blanks at its front. -/
def skipBlanks (text : Text) : Text := text.dropWhile isBlank

/-! ### Strings -/

/-- The character that a one-letter escape stands for. -/
def simpleEscape? (c : CodePoint) : Option CodePoint :=
  if c = '"' then some '"'
  else if c = '\\' then some '\\'
  else if c = '/' then some '/'
  else if c = 'b' then some 0x08
  else if c = 'f' then some 0x0C
  else if c = 'n' then some '\n'
  else if c = 'r' then some '\r'
  else if c = 't' then some '\t'
  else none

/-- The number that four hexadecimal digits write. -/
def hexQuad? (a b c d : CodePoint) : Option Nat := do
  return ((← a.hexValue?) * 16 + (← b.hexValue?)) * 256 + (← c.hexValue?) * 16 + (← d.hexValue?)

/-- The code point that a surrogate pair stands for. -/
def joinSurrogates (high low : Nat) : CodePoint :=
  .ofNat (0x10000 + (high - 0xD800) * 0x400 + (low - 0xDC00))

/-- The low surrogate that `text` begins with as a `\u` escape, if it does and something
follows the escape. -/
def lowSurrogate? (text : Text) : Except Fault (Option Nat) :=
  match text with
  | b :: u :: l₁ :: l₂ :: l₃ :: l₄ :: _ :: _ =>
    if b = '\\' && u = 'u' then
      match hexQuad? l₁ l₂ l₃ l₄ with
      | none => .error (.here .badUnicodeEscape (text.drop 1))
      | some m => .ok (if (CodePoint.ofNat m).isLowSurrogate then some m else none)
    else .ok none
  | _ => .ok none

/-- Reads a string up to its closing quote; `opened` is the text from the opening quote on and
`done` what was read so far, last first.  An escaped surrogate pair is one character. -/
def stringBody (opened done : Text) : Text → Except Fault (Text × Text)
  | [] => .error (.here .unterminatedString opened)
  | c :: rest =>
    if c = '"' then .ok (done.reverse, rest)
    else if c = '\\' then
      match rest with
      | [] => .error (.here .unterminatedString opened)
      | e :: rest =>
        match simpleEscape? e with
        | some x => stringBody opened (x :: done) rest
        | none =>
          if e = 'u' then
            match rest with
            | h₁ :: h₂ :: h₃ :: h₄ :: next :: after =>
              match hexQuad? h₁ h₂ h₃ h₄ with
              | none => .error (.here .badUnicodeEscape (e :: rest))
              | some n =>
                let first := CodePoint.ofNat n
                match if first.isHighSurrogate then lowSurrogate? (next :: after) else .ok none with
                | .error fault => .error fault
                | .ok none => stringBody opened (first :: done) (next :: after)
                | .ok (some m) =>
                  match after with
                  | _ :: _ :: _ :: _ :: _ :: after =>
                    stringBody opened (joinSurrogates n m :: done) after
                  | _ => .error (.here .unterminatedString opened)
            | _ => .error (.here .badUnicodeEscape (e :: rest))
          else .error (.here .badEscape (c :: e :: rest))
    else if c.val < 0x20 then .error (.here .controlCharacter (c :: rest))
    else stringBody opened (c :: done) rest
termination_by structural text => text

/-! ### Numbers -/

/-- Reads a point with at least one digit. -/
def fraction (text : Text) : Text × Text :=
  match text with
  | dot :: rest =>
    let digits := rest.takeWhile (·.isDigit)
    if dot = '.' && ! digits.isEmpty then (digits, rest.dropWhile (·.isDigit)) else ([], text)
  | [] => ([], [])

/-- Reads an exponent with at least one digit. -/
def exponent (text : Text) : Option Int × Text :=
  match text with
  | e :: rest =>
    if e = 'e' || e = 'E' then
      let (negative, rest) : Bool × Text :=
        match rest with
        | sign :: after =>
          if sign = '-' then (true, after) else if sign = '+' then (false, after) else (false, rest)
        | [] => (false, [])
      let digits := rest.takeWhile (·.isDigit)
      if digits.isEmpty then (none, text)
      else
        let n : Int := Text.digitsValue digits
        (some (if negative then -n else n), rest.dropWhile (·.isDigit))
    else (none, text)
  | [] => (none, [])

/-- Reads the digits of the integer part: a zero alone, or digits that do not begin with it. -/
def wholeDigits (text : Text) : Text × Text :=
  match text with
  | c :: rest =>
    if c = '0' then ([c], rest) else (text.takeWhile (·.isDigit), text.dropWhile (·.isDigit))
  | [] => ([], [])

/-- Reads a number: a fraction or an exponent makes it a double. -/
def number (text : Text) : Except Fault (Json × Text) :=
  let negative := Text.startsWith text "-"
  let (whole, rest) := wholeDigits (if negative then text.drop 1 else text)
  if whole.isEmpty then .error (.here .expectingValue text)
  else
    let (part, rest) := fraction rest
    match exponent rest with
    | (some e, rest) => .ok (.double (Double.ofNumeral negative whole part e), rest)
    | (none, rest) =>
      if ! part.isEmpty then .ok (.double (Double.ofNumeral negative whole part 0), rest)
      else if Numeral.mostDigits < whole.length then .error (.tooManyDigits whole.length)
      else
        let n : Int := Text.digitsValue whole
        .ok (.int (if negative then -n else n), rest)

/-- The words for values, and their values. -/
def words : List (Text × Json) :=
  [("null", .null), ("true", .bool true), ("false", .bool false), ("NaN", .double .nan),
    ("Infinity", .double (.infinite false)), ("-Infinity", .double (.infinite true))]

/-- Reads a word or a number. -/
def scalar (input : Text) : Except Fault (Json × Text) :=
  let hit := words.findSome? fun (word, meaning) =>
    (Text.dropFirst? word input).map fun rest => (meaning, rest)
  match hit with
  | some result => .ok result
  | none => number input

/-! ### Lists and objects -/

/-- Reads items with commas between them up to `close`; `done` holds those read so far, last
first.  The first argument bounds their number: the length of the text suffices. -/
def items {α : Type} (item : Text → Except Fault (α × Text)) (close : CodePoint) :
    Nat → List α → Text → Except Fault (List α × Text)
  | 0, _, text => .error (.here .expectingValue text)
  | fuel + 1, done, text =>
    match item text with
    | .error fault => .error fault
    | .ok (x, rest) =>
      let rest := skipBlanks rest
      match rest with
      | [] => .error (.here .expectingComma rest)
      | c :: after =>
        if c = close then .ok ((x :: done).reverse, after)
        else if c = ',' then items item close fuel (x :: done) (skipBlanks after)
        else .error (.here .expectingComma rest)

/-- Reads what stands between an opening bracket and its closing one. -/
def enclosed {α : Type} (item : Text → Except Fault (α × Text)) (close : CodePoint) (fuel : Nat)
    (text : Text) : Except Fault (List α × Text) :=
  let text := skipBlanks text
  match text with
  | c :: rest => if c = close then .ok ([], rest) else items item close fuel [] text
  | [] => items item close fuel [] text

/-- Reads a name, a colon and a value. -/
def member (value : Text → Except Fault (Json × Text)) (text : Text) :
    Except Fault ((Text × Json) × Text) :=
  match text with
  | [] => .error (.here .expectingName text)
  | c :: rest =>
    if c = '"' then
      match stringBody text [] rest with
      | .error fault => .error fault
      | .ok (name, rest) =>
        let rest := skipBlanks rest
        match rest with
        | [] => .error (.here .expectingColon rest)
        | c :: after =>
          if c = ':' then
            match value (skipBlanks after) with
            | .error fault => .error fault
            | .ok (x, rest) => .ok ((name, x), rest)
          else .error (.here .expectingColon rest)
    else .error (.here .expectingName text)

/-- Reads a value with at most `room` lists and objects open at once. -/
def value (fuel : Nat) (room : Nat) (text : Text) : Except Fault (Json × Text) :=
  match text with
  | [] => .error (.here .expectingValue text)
  | c :: rest =>
    if c = '"' then (stringBody text [] rest).map fun (s, rest) => (.str s, rest)
    else if c = '[' then
      match room with
      | 0 => .error .tooDeep
      | room + 1 =>
        (enclosed (value fuel room) ']' fuel rest).map fun (xs, rest) => (.list xs, rest)
    else if c = '{' then
      match room with
      | 0 => .error .tooDeep
      | room + 1 =>
        (enclosed (member (value fuel room)) '}' fuel rest).map fun (ms, rest) =>
          (.object (settle ms), rest)
    else scalar text

/-! ### Whole texts -/

/-- How deep values nest.  This is up to the interpreter that reads, and to what it is about already;
there is always room for a list in an object. -/
class Depth where
  /-- How many lists and objects may be open inside of that list. -/
  inner : Nat

/-- How many lists and objects may be open at once. -/
def mostOpen [Depth] : Nat := Depth.inner + 2

/-- What an interpreter with its usual limit leaves. -/
instance usualDepth : Depth := ⟨988⟩

/-- Why a text is no JSON text, and where. -/
inductive Error
  | found (cause : Cause) (line column position : Nat)
  | tooDeep
  | tooManyDigits (count : Nat)
  deriving DecidableEq

/-- The line, the column and the position of the end of `before`; lines and columns are
counted from one. -/
def Error.after (cause : Cause) (before : Text) : Error :=
  .found cause (before.count (0x0A : CodePoint) + 1)
    ((before.reverse.takeWhile (· ≠ (0x0A : CodePoint))).length + 1) before.length

/-- A fault in a text, with its place counted. -/
def Fault.within (whole : Text) : Fault → Error
  | .here cause rest => .after cause (whole.take (whole.length - rest.length))
  | .tooDeep => .tooDeep
  | .tooManyDigits count => .tooManyDigits count

/-- Reads one value with blanks around it and nothing else. -/
def parse [Depth] (text : Text) : Except Error Json :=
  if text.head? = some 0xFEFF then .error (.after .byteOrderMark [])
  else
    match value text.length mostOpen (skipBlanks text) with
    | .error fault => .error (fault.within text)
    | .ok (result, rest) =>
      let rest := skipBlanks rest
      if rest.isEmpty then .ok result
      else .error (Fault.within text (.here .extraData rest))

/-- The wording of a cause. -/
def Cause.message : Cause → Text
  | .byteOrderMark => "Unexpected UTF-8 BOM (decode using utf-8-sig)"
  | .expectingValue => "Expecting value"
  | .expectingName => "Expecting property name enclosed in double quotes"
  | .expectingColon => "Expecting ':' delimiter"
  | .expectingComma => "Expecting ',' delimiter"
  | .unterminatedString => "Unterminated string starting at"
  | .controlCharacter => "Invalid control character at"
  | .badEscape => "Invalid \\escape"
  | .badUnicodeEscape => "Invalid \\uXXXX escape"
  | .extraData => "Extra data"

/-- The wording of a refusal. -/
def Error.message : Error → Text
  | .found cause line column position =>
    cause.message ++ ": line " ++ Text.ofNat line ++ " column " ++ Text.ofNat column
      ++ " (char " ++ Text.ofNat position ++ ")"
  | .tooDeep => "nested too deeply"
  | .tooManyDigits count => (Numeral.Fault.tooManyDigits count).message

end Json

end ControlChannel
