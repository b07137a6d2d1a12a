import ControlChannel.Command.Usage
import ControlChannel.Console.Highlight
import ControlChannel.Console.Library
import ControlChannel.Console.Markup
import ControlChannel.Console.Theme
import ControlChannel.Console.Wrap

/-!
# The console for failures

Failures are told on a console that knows markup, lets numbers and the like stand out, and breaks
lines at its width.  A console is no terminal and shows no colours, unless its environment says
so.

* `Terminal`, `Environment.terminal?` — what a terminal can show, if the console is one;
* `Console`, `Console.ofEnvironment` — a console, and the one that is opened in an environment;
* `Console.widthIn` — its width at the time of writing.  **A measure that was there when it was
  opened stays**; one that was not is looked up each time;
* `Console.write` — a text with markup as the lines that are written;
* `Console.library` — the library that runs.
-/

namespace ControlChannel

/-! ### Terminals -/

/-- What a terminal can show. -/
structure Terminal where
  range : ColorRange
  /-- Whether colours are left out all the same. -/
  isColorless : Bool
  deriving DecidableEq

namespace Environment

/-- Whether the variables say that a console is a terminal.  One of them decides with `0` and
`1`, and without these any text in the other one does. -/
def saysTerminal (e : Environment) : Bool :=
  match e.get? "TTY_COMPATIBLE" with
  | some value => if value = "0" then false else value = "1" || forced
  | none => forced
where
  /-- Whether colours are asked for. -/
  forced : Bool := (e.nonempty? "FORCE_COLOR").isSome

/-- A variable in lower case, and the empty text for one that is not set. -/
def lowered (e : Environment) (name : Text) : Text := ((e.get? name).getD []).toLower

/-- Whether a console is a terminal that can show nothing but text. -/
def saysDumb (e : Environment) : Bool :=
  let kind := e.lowered "TERM"
  e.saysTerminal && (kind = "dumb" || kind = "unknown")

/-- The colours that the variables promise. -/
def colorRange (e : Environment) : ColorRange :=
  let colors := Text.trim (·.isBlank) (e.lowered "COLORTERM")
  let kind := Text.trim (·.isBlank) (e.lowered "TERM")
  let ending := ((Text.splitOn '-' kind).getLast?).getD []
  if colors = "truecolor" || colors = "24bit" then .full
  else if ending = "kitty" || ending = "256color" then .numbered
  else .standard

/-- What a console can show as a terminal, if it is one that shows anything. -/
def terminal? (e : Environment) : Option Terminal :=
  if e.saysTerminal && ! e.saysDumb then
    some { range := e.colorRange, isColorless := (e.nonempty? "NO_COLOR").isSome }
  else none

end Environment

/-! ### Consoles -/

/-- A console, with what its environment told of it when it was opened. -/
structure Console where
  width : Option Nat
  height : Option Nat
  terminal : Option Terminal
  deriving DecidableEq

/-- A measure that a variable gives: only a text of digits is taken for one. -/
def Environment.measure? (e : Environment) (name : Text) : Except Numeral.Fault (Option Nat) :=
  match (e.nonempty? name).filter (·.all (·.isAnyDigit)) with
  | none => .ok none
  | some text => (Numeral.read text).map some

namespace Console

/-- Why a console cannot be opened or written to. -/
inductive Fault
  | measure (fault : Numeral.Fault)
  | markup (fault : Markup.Fault)
  | style (fault : Numeral.Fault)
  deriving DecidableEq

/-- The wording of a console fault. -/
def Fault.message : Fault → Text
  | measure fault => fault.message
  | markup fault => fault.message
  | style fault => fault.message

/-- The console that is opened in an environment. -/
def ofEnvironment (e : Environment) : Except Fault Console := do
  let width ← (e.measure? "COLUMNS").mapError .measure
  let height ← (e.measure? "LINES").mapError .measure
  return { width, height, terminal := e.terminal? }

/-- The width of a console that is written to in an environment.  Both measures are looked up
again unless both were there from the beginning; a width of zero is then none.  A terminal that
shows nothing but text has a width of its own. -/
def widthIn (c : Console) (e : Environment) : Except Fault Nat :=
  match c.width, c.height with
  | some width, some _ => .ok width
  | _, _ =>
    if e.saysDumb then .ok defaultColumns
    else do
      let now ← ofEnvironment e
      return c.width.getD ((now.width.filter (0 < ·)).getD defaultColumns)

/-- The segments that fit so many cells. -/
def fitFrom (room : Nat) : List (Text × Style) → List (Text × Style)
  | [] => []
  | (text, style) :: others =>
    if text.cells < room then (text, style) :: fitFrom (room - text.cells) others
    else [(text.crop room, style)]

/-- The segments of a line, cut to a width.  **Each segment has its own cells**, so the line may
be cut even where it would fit as one. -/
def fit (width : Nat) (segments : List (Text × Style)) : List (Text × Style) :=
  let cells := segments.foldl (fun cells segment => cells + segment.1.cells) 0
  if cells ≤ width then segments else fitFrom width segments

/-- A segment as it is written. -/
def paint (c : Console) (text : Text) (style : Style) : Text :=
  match c.terminal with
  | none => text
  | some terminal =>
    (if terminal.isColorless then style.withoutColor else style).paint terminal.range text

/-- A line as it is written at a width. -/
def writeLine (c : Console) (width : Nat) (line : Styled Style) : Text :=
  let segments := line.segments.map fun (text, looks) => (text, looks.foldl Style.under {})
  (fit width segments).flatMap (fun (text, style) => c.paint text style) ++ ([0x0A] : Text)

/-- A styled text as lines of a width.  Without any width nothing is written at all. -/
def layout (c : Console) (width : Nat) (s : Styled Text) : Except Fault Text :=
  if width = 0 then .ok []
  else do
    let lines ← (s.lines.flatMap (Wrap.line width)).mapM fun line =>
      ((line.mapLooks Theme.style).mapError .style)
    return lines.flatMap (c.writeLine width)

/-- What a console writes for a text with markup in an environment.  The styles of tags lie over
those of what stands out. -/
def write (c : Console) (e : Environment) (text : Text) : Except Fault Text := do
  let shown ← (Markup.read text).mapError .markup
  let width ← c.widthIn e
  c.layout width { shown with spans := Highlight.spans shown.text ++ shown.spans }

/-- A fault as an error that is raised. -/
def Fault.raised (fault : Fault) : LibraryError :=
  { kind := match fault with
      | markup (.color _) => "ValueError"
      | markup _ => "MarkupError"
      | _ => "ValueError"
    message := fault.message }

/-- The library that runs. -/
instance library : ConsoleLibrary where
  Opened := Console
  opened e := (ofEnvironment e).mapError Fault.raised
  written c e text := (c.write e text).mapError Fault.raised
  escape := Markup.escape

end Console

end ControlChannel
