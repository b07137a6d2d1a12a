import ControlChannel.Environment

/-!
# The library for failures

Failures are told on a console, which a library provides.  It looks at the variables of the program,
knows markup, and may raise errors of its own.

* `LibraryError` — an error of a library;
* `ConsoleLibrary` — the library: how a console is opened, what is written for a text with markup, and
  the markup for a text as it is;
* `ConsoleLibrary.failure` — a failure as it is told;
* `ConsoleLibrary.Tells` — **a console that tells every failure**.
-/

namespace ControlChannel

/-- An error that a library raises: its kind, and its wording. -/
structure LibraryError where
  kind : Text
  message : Text
  deriving DecidableEq

/-- The library that failures are told with. -/
class ConsoleLibrary where
  /-- A console. -/
  Opened : Type
  /-- The console that is opened with these variables. -/
  opened : Environment → Except LibraryError Opened
  /-- What a console writes for a text with markup, while these variables are set. -/
  written : Opened → Environment → Text → Except LibraryError Text
  /-- A text in which nothing is taken for markup. -/
  escape : Text → Text

namespace ConsoleLibrary

variable [ConsoleLibrary]

/-- A failure as it is told: a heading, and the message as it is. -/
def failure (message : Text) : Text := "[bold red]Error:[/bold red] " ++ escape message

/-- A console tells every failure while these variables are set. -/
def Tells (console : Opened) (e : Environment) : Prop :=
  ∀ message, ∃ text, written console e (failure message) = .ok text

end ConsoleLibrary

end ControlChannel
