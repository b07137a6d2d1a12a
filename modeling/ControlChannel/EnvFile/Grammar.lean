import ControlChannel.EnvFile
import ControlChannel.Text.Blank

/-!
# Files of environment variables

A file binds names to values, one binding a line: `NAME=value`, `export NAME='value'`, or a name
alone.  Values may be quoted, may span lines inside quotes, and may refer to other variables.

* `EnvFile.lines` — line ends of all systems as one character;
* `EnvFile.binding` — one binding with the text that follows it.  Where something does not fit,
  **the rest of that line is skipped and the binding ignored**;
* `EnvFile.bindings` — all bindings of a file;
* `EnvFile.expand` — references replaced in a value.
-/

namespace ControlChannel

namespace EnvFile

/-- The end of a line. -/
def newline : CodePoint := 0x0A

/-- The text with each carriage return, and each one before a line feed, as one line feed. -/
def lines : Text → Text
  | [] => []
  | c :: rest =>
    if c = '\r' then
      match rest with
      | [] => [newline]
      | d :: after => if d = newline then newline :: lines after else newline :: lines (d :: after)
    else c :: lines rest
termination_by text => text.length

/-- A blank within a line. -/
def isGap (c : CodePoint) : Bool := c.isBlank && c ≠ newline && c ≠ '\r'

/-- The text after the blanks at its front, within the line. -/
def skipGap (text : Text) : Text := text.dropWhile isGap

/-- Reads a name: in single quotes, or up to an equals sign, a number sign or a blank.  Before a
comment there is none.  Like all readers here it gives a value and the text after it, or the
text from where it failed. -/
def readName (text : Text) : Except Text (Option Text × Text) :=
  match text with
  | [] => .error []
  | c :: rest =>
    if c = '#' then .ok (none, text)
    else if c = '\'' then
      let name := rest.takeWhile (· ≠ ('\'' : CodePoint))
      match rest.dropWhile (· ≠ ('\'' : CodePoint)) with
      | _ :: after => if name.isEmpty then .error text else .ok (some name, after)
      | [] => .error text
    else
      let inName (c : CodePoint) : Bool := c ≠ '=' && c ≠ '#' && ! c.isBlank
      let name := text.takeWhile inName
      if name.isEmpty then .error text else .ok (some name, text.dropWhile inName)

/-- The text between two quotes of one kind, as it is written, and the text after it; a
backslash takes the next character with it, whatever that is. -/
def readQuoted (mark : CodePoint) (done : Text) : Text → Option (Text × Text)
  | [] => none
  | c :: rest =>
    if c = mark then some (done.reverse, rest)
    else if c = '\\' then
      match rest with
      | [] => none
      | d :: after => readQuoted mark (d :: c :: done) after
    else readQuoted mark (c :: done) rest

/-- The characters that a backslash may stand before in single quotes, and what they become. -/
def singleEscapes : List (CodePoint × CodePoint) := [('\\', '\\'), ('\'', '\'')]

/-- The characters that a backslash may stand before in double quotes, and what they become. -/
def doubleEscapes : List (CodePoint × CodePoint) :=
  [('\\', '\\'), ('\'', '\''), ('"', '"'), ('a', 0x07), ('b', 0x08), ('f', 0x0C), ('n', '\n'),
    ('r', '\r'), ('t', '\t'), ('v', 0x0B)]

/-- The text with its escapes replaced; a backslash before another character stays. -/
def unescape (escapes : List (CodePoint × CodePoint)) (done : Text) : Text → Text
  | [] => done.reverse
  | c :: rest =>
    if c = '\\' then
      match rest with
      | [] => (c :: done).reverse
      | d :: after =>
        match escapes.lookup d with
        | some x => unescape escapes (x :: done) after
        | none => unescape escapes (c :: done) (d :: after)
    else unescape escapes (c :: done) rest

/-- The part of a line before a number sign that follows a blank. -/
def withoutComment (previous : Option CodePoint) (done : Text) : Text → Text
  | [] => done.reverse
  | c :: rest =>
    if c = '#' && previous.any (·.isBlank) then done.reverse
    else withoutComment (some c) (c :: done) rest

/-- Reads a value that is not quoted: up to the end of the line or a comment, without the blanks
at its end. -/
def readPlain (text : Text) : Text × Text :=
  let line := text.takeWhile (· ≠ newline)
  (Text.dropEndWhile (·.isBlank) (withoutComment none [] line), text.dropWhile (· ≠ newline))

/-- Reads a value after its equals sign; `spaced` tells whether blanks came in between. -/
def readValue (spaced : Bool) (text : Text) : Except Text (Text × Text) :=
  match text with
  | [] => .ok ([], text)
  | c :: rest =>
    if spaced && c = '#' then .ok ([], text)
    else if c = '\'' then
      match readQuoted c [] rest with
      | some (value, after) => .ok (unescape singleEscapes [] value, after)
      | none => .error text
    else if c = '"' then
      match readQuoted c [] rest with
      | some (value, after) => .ok (unescape doubleEscapes [] value, after)
      | none => .error text
    else if c = newline then .ok ([], text)
    else .ok (readPlain text)

/-- Skips a comment. -/
def skipComment (text : Text) : Text :=
  match skipGap text with
  | c :: rest => if c = '#' then rest.dropWhile (· ≠ newline) else text
  | [] => text

/-- Reads the end of a line. -/
def readEnd (text : Text) : Except Text Text :=
  match skipGap text with
  | [] => .ok []
  | c :: rest => if c = newline then .ok rest else .error text

/-- Skips the word `export` with the blanks after it. -/
def skipExport (text : Text) : Text :=
  match Text.dropFirst? "export" text with
  | some rest => if rest.head?.any isGap then skipGap rest else text
  | none => text

/-- Reads a name, its value if there is an equals sign, and the end of the line. -/
def readBinding (text : Text) : Except Text (Option Binding × Text) := do
  let (name?, rest) ← readName (skipExport text)
  let rest := skipGap rest
  let (value?, rest) ← match rest with
    | c :: after =>
      if c = '=' then do
        let (value, rest) ← readValue (after.head?.any isGap) (skipGap after)
        pure (some value, rest)
      else pure (none, rest)
    | [] => pure (none, rest)
  let rest ← readEnd (skipComment rest)
  return (name?.map fun name => { name, value := value? }, rest)

/-- One binding, if there is a good one, and the text that follows it. -/
def binding (text : Text) : Option Binding × Text :=
  match readBinding text with
  | .ok result => result
  | .error rest => (none, (rest.dropWhile (· ≠ newline)).drop 1)

/-- The bindings of a text, at most as many as the first argument; the length of the text
suffices. -/
def bindingsWithin : Nat → Text → List Binding
  | 0, _ => []
  | fuel + 1, text =>
    let text := text.dropWhile (·.isBlank)
    if text.isEmpty then []
    else
      let (binding?, rest) := binding text
      binding?.toList ++ bindingsWithin fuel rest

/-- The bindings of a file, in order. -/
def bindings (text : Text) : List Binding :=
  let text := lines (if text.head? = some 0xFEFF then text.drop 1 else text)
  bindingsWithin text.length text

/-! ### References to variables -/

/-- A reference at the front of a text: its name, its default, and the text after it. -/
def reference? (text : Text) : Option (Text × Option Text × Text) := do
  let rest ← Text.dropFirst? "$\x7b" text
  let inName (c : CodePoint) : Bool := c ≠ '}' && c ≠ ':'
  let name := rest.takeWhile inName
  match rest.dropWhile inName with
  | [] => none
  | c :: after =>
    if c = '}' then some (name, none, after)
    else
      let rest ← Text.dropFirst? "-" after
      match rest.dropWhile (· ≠ ('}' : CodePoint)) with
      | [] => none
      | _ :: after => some (name, some (rest.takeWhile (· ≠ ('}' : CodePoint))), after)

/-- A value with its references replaced by what `known` gives, else by their defaults.  The
first argument bounds the steps; the length of the text suffices. -/
def expandWithin (known : Text → Option Text) : Nat → Text → Text → Text
  | 0, done, _ => done.reverse
  | _ + 1, done, [] => done.reverse
  | fuel + 1, done, c :: rest =>
    match reference? (c :: rest) with
    | some (name, absent, after) =>
      let value := (known name).getD (absent.getD [])
      expandWithin known fuel (value.reverse ++ done) after
    | none => expandWithin known fuel (c :: done) rest

/-- A value with its references replaced. -/
def expand (known : Text → Option Text) (value : Text) : Text :=
  expandWithin known value.length [] value

/-- The library that runs. -/
instance reader : Reader := { bindings, expand }

end EnvFile

end ControlChannel
