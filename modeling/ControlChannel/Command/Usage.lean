import ControlChannel.Command.Grammar
import ControlChannel.Decimal.Reader
import ControlChannel.Environment

/-!
# Usage lines and help texts

How a level of the command line is shown, laid out for a terminal of some columns.

* `Surroundings.columns` — the columns of the terminal;
* `Layout.fill` — words in lines as full as they can be;
* `Layout.usage` — the usage line, folded under the program name where it is too long;
* `Layout.help` — the help text: usage, description, operands and switches.
-/

namespace ControlChannel

/-- The columns of a terminal when nothing tells. -/
def defaultColumns : Nat := 80

/-- The columns that texts are laid out for: those that a variable sets to a positive integer, else
those of the terminal, else the default. -/
def Surroundings.columns (s : Surroundings) : Nat :=
  let asked := (s.terminalColumns.filter (0 < ·)).getD defaultColumns
  match (s.environment.get? "COLUMNS").bind readInteger? with
  | some n => if 0 < n then n.toNat else asked
  | none => asked

namespace Layout

/-- Blanks. -/
def spaces (n : Nat) : Text := List.replicate n (0x20 : CodePoint)

/-- Puts words one after the other into lines: `line` holds the words of the line under way,
last first, which reach to column `reached`; a word starts a new line, where a line reaches to
`start` before its first word, if it would pass `width`. -/
def fold (width start : Int) (line : List Text) (reached : Int) : List Text → List (List Text)
  | [] => if line.isEmpty then [] else [line.reverse]
  | word :: words =>
    if reached + 1 + word.length > width && ! line.isEmpty then
      line.reverse :: fold width start [word] (start + word.length + 1) words
    else fold width start (word :: line) (reached + word.length + 1) words

/-- The words of a text, at its spaces. -/
def wordsOf (text : Text) : List Text := (Text.splitOn 0x20 text).filter (! ·.isEmpty)

/-- A text in lines of at most `width` characters. -/
def fill (width : Nat) (text : Text) : List Text :=
  (fold width (-1) [] (-1) (wordsOf text)).map (Text.joined " ")

/-- The parts of a usage line for the switches. -/
def switchParts (l : Level) : List Text :=
  l.switches.map fun s => "[" ++ (s.names.head?.getD []) ++ "]"

/-- The parts of a usage line for the operand. -/
def operandParts (l : Level) : List Text :=
  match l.operand with
  | none => []
  | some (.words name) => [name, "[" ++ name ++ " ...]"]
  | some (.command name) => [name, "..."]

/-- What a usage line begins with. -/
def usageHead : Text := "usage: "

/-- Lines of parts, all indented; the first one continues a line that reaches to `reached`
where that is given, and has no indent then. -/
def indented (width : Int) (indent : Nat) (reached : Option Nat) (parts : List Text) :
    List Text :=
  let start : Int := indent - 1
  let first : Int := match reached with
    | some n => (n : Int) - 1
    | none => start
  let lines := (fold width start [] first parts).map (Text.joined " ")
  match reached, lines with
  | some _, line :: lines => line :: lines.map (spaces indent ++ ·)
  | _, lines => lines.map (spaces indent ++ ·)

/-- The usage line of a level for a program, with a line feed after it.  A line that is too long
is folded under the program name, or under the head where the name takes most of the width. -/
def usage (columns : Nat) (program : Text) (l : Level) : Text :=
  let width : Int := columns - 2
  let switches := switchParts l
  let operands := operandParts l
  let whole := Text.joined " " (program :: switches ++ operands)
  let body : Text :=
    if usageHead.length + whole.length > width then
      let reached := usageHead.length + program.length
      let lines :=
        if 4 * (reached : Int) ≤ 3 * width then
          indented width (reached + 1) (some usageHead.length) (program :: switches)
            ++ indented width (reached + 1) none operands
        else
          let indent := usageHead.length
          let together := indented width indent none (switches ++ operands)
          program ::
            (if 1 < together.length then
              indented width indent none switches ++ indented width indent none operands
            else together)
      Text.joined "\n" lines
    else whole
  usageHead ++ body ++ "\n"

/-- One entry of a list of operands or switches. -/
structure Entry where
  indent : Nat
  header : Text
  help : Option Text

/-- The column where the help of entries begins. -/
def helpColumn (columns : Nat) (longest : Nat) : Nat :=
  min (longest + 2) (min 24 (max (columns - 22) 4))

/-- An entry with its help beside it, or below it where the header is too long. -/
def Entry.render (columns column : Nat) (e : Entry) : Text :=
  let helpWidth := max (columns - 2 - column) 11
  let headerWidth : Int := (column : Int) - e.indent - 2
  match e.help with
  | none => spaces e.indent ++ e.header ++ "\n"
  | some help =>
    let lines := fill helpWidth help
    let later : Text := (lines.drop 1).flatMap fun line => spaces column ++ line ++ ("\n" : Text)
    let first : Text := (lines.head?.getD []) ++ ("\n" : Text)
    if e.header.length ≤ headerWidth then
      spaces e.indent ++ Text.padRight headerWidth.toNat e.header ++ "  " ++ first ++ later
    else spaces e.indent ++ e.header ++ "\n" ++ spaces column ++ first ++ later

/-- The entries for the operand of a level; a command has the commands below it. -/
def operandEntries (l : Level) (subcommands : List Subcommand) : List Entry :=
  match l.operand with
  | none => []
  | some (.words name) => [⟨2, name, none⟩]
  | some (.command name) =>
    ⟨2, name, none⟩ :: subcommands.map fun s => ⟨4, s.name, some s.help⟩

/-- The entries for the switches of a level. -/
def switchEntries (l : Level) : List Entry :=
  l.switches.map fun s => ⟨2, Text.joined ", " s.names, some s.help⟩

/-- A titled list of entries, nothing for no entries. -/
def listing (columns column : Nat) (title : Text) (entries : List Entry) : Text :=
  if entries.isEmpty then []
  else "\n" ++ title ++ ":\n" ++ entries.flatMap (Entry.render columns column)

/-- A text with at most one empty line between two others, and without empty lines at its
ends; `breaks` counts the line feeds just passed. -/
def squeeze (breaks : Nat) (done : Text) : Text → Text
  | [] => (done.dropWhile (· = (0x0A : CodePoint))).reverse
  | c :: rest =>
    if c = '\n' then squeeze (breaks + 1) (if breaks < 2 then c :: done else done) rest
    else squeeze 0 (c :: done) rest

/-- A laid-out text: squeezed, and ended by one line feed. -/
def finish (text : Text) : Text :=
  (squeeze 0 [] text).dropWhile (· = (0x0A : CodePoint)) ++ "\n"

/-- The help text of a level for a program. -/
def help (columns : Nat) (program : Text) (l : Level) (description : Option Text)
    (subcommands : List Subcommand) : Text :=
  let operands := operandEntries l subcommands
  let switches := switchEntries l
  let longest := (operands ++ switches).foldl (fun n e => max n (e.header.length + 2)) 0
  let column := helpColumn columns longest
  let about : Text := match description with
    | none => []
    | some text => "\n" ++ Text.joined "\n" (fill (max (columns - 2) 11) text) ++ "\n"
  finish (usage columns program l ++ about ++ listing columns column "positional arguments" operands
    ++ listing columns column "options" switches)

/-- The line that tells a usage fault: the usage line, the program and the fault. -/
def refusal (columns : Nat) (program : Text) (l : Level) (message : Text) : Text :=
  finish (usage columns program l) ++ program ++ ": error: " ++ message ++ "\n"

/-- How the program is named at the level of a command: the name of the program, squeezed and
without blanks at its ends, and the command. -/
def programAt (program command : Text) : Text :=
  Text.trim (·.isBlank) (finish program) ++ " " ++ command

end Layout

end ControlChannel
