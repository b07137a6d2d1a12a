import ControlChannel.Config
import ControlChannel.Console.Library
import ControlChannel.Failure
import ControlChannel.Logging
import ControlChannel.Text.Charset

/-!
# What a call of the program shows

* `Screen` — what was written to the two streams of a terminal;
* `ProgramFault` — what ends a call of the program without an exit status;
* `Screen.write`, `Screen.printAll` — a text and lines on the first stream, which **refuses a text
  that its encoding lacks**;
* `Screen.writeError`, `Screen.tell` — a text on the stream for failures, and a text with markup.
-/

namespace ControlChannel

/-- What was written to the two streams of a terminal. -/
structure Screen where
  /-- The encoding of the first stream.  The one for failures replaces what it lacks. -/
  charset : Charset := .whole
  out : Text := []
  err : Text := []
  deriving DecidableEq

/-- What ends a call of the program without an exit status. -/
inductive ProgramFault
  | config (fault : ConfigFault)
  | log (fault : LogFault)
  | console (fault : LibraryError)
  | stream (fault : Charset.Fault)
  | failure (failure : Failure)

/-- The wording of what ends a call. -/
def ProgramFault.message : ProgramFault → Text
  | config fault => fault.message
  | log fault => fault.message
  | console fault => fault.message
  | stream fault => fault.message
  | failure f => f.message

namespace Screen

/-- Writes a text to the first stream. -/
def write (s : Screen) (text : Text) : Except ProgramFault Screen :=
  match s.charset.refusal? text with
  | none => .ok { s with out := s.out ++ text }
  | some fault => .error (.stream fault)

/-- Writes texts to the first stream, one after the other. -/
def writeAll (s : Screen) (texts : List Text) : Except ProgramFault Screen := texts.foldlM write s

/-- Writes lines to the first stream, the text of each before its end. -/
def printAll (s : Screen) (lines : List Text) : Except ProgramFault Screen :=
  s.writeAll (lines.flatMap fun line => [line, ([0x0A] : Text)])

/-- Writes a text to the second stream, the one for failures. -/
def writeError (s : Screen) (text : Text) : Screen := { s with err := s.err ++ text }

/-- Shows a text with markup on a console for failures. -/
def tell [ConsoleLibrary] (s : Screen) (console : ConsoleLibrary.Opened) (e : Environment)
    (markup : Text) : Except ProgramFault Screen :=
  ((ConsoleLibrary.written console e markup).mapError .console).map s.writeError

end Screen

end ControlChannel
