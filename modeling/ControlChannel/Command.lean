import ControlChannel.Address
import ControlChannel.Command.Arguments
import ControlChannel.Command.Usage
import ControlChannel.Error
import ControlChannel.Json.Value

/-!
# Commands

What an argument vector, program name first, asks for.

* `Invocation` — the fields of a command as the handler reads them;
* `Grammar.read` — an argument vector as an invocation, or the text to show instead: a help text
  with status 0, a usage fault with status 2;
* `Surroundings.readCommand` — the same for the control grammar in given surroundings.
-/

namespace ControlChannel

/-- A command as the handler reads it: its name, and the fields that a name may need. -/
structure Invocation where
  /-- The name of the command; any value, because a handler is not only called by the grammar. -/
  command : Json
  /-- Whether `run` shall go into the background. -/
  daemon : Option Bool := none
  /-- The words of `echo`. -/
  text : Option (List Text) := none

/-- The text to show instead of running a command, and the exit status with it. -/
structure Refusal where
  text : Text
  status : Int
  deriving DecidableEq

/-- A refusal as a failure of the control channel. -/
def Refusal.error (r : Refusal) : ControlError := .badCommand r.text r.status

namespace Grammar

/-- A usage fault, shown at a level. -/
def faultAt (columns : Nat) (program : Text) (l : Level) (fault : UsageFault) : Refusal :=
  { text := Layout.refusal columns program l fault.message, status := 2 }

/-- The command of the outer level with the arguments after it. -/
def readSubcommand (g : Grammar) (columns : Nat) (program : Text) (operand : List Text) :
    Except Refusal (Subcommand × Matched) :=
  let named := operand.head?.getD []
  match g.subcommands.find? (·.name = named) with
  | none =>
    let name := (g.outer.operand.map Operand.name).getD []
    .error (faultAt columns program g.outer
      (.invalidChoice name named (g.subcommands.map (·.name))))
  | some s =>
    match s.level.fit (operand.drop 1) with
    | .ok m => .ok (s, m)
    | .error .help =>
      .error
        { text := Layout.help columns (Layout.programAt program s.name) s.level none []
          status := 0 }
    | .error (.fault fault) =>
      .error (faultAt columns (Layout.programAt program s.name) s.level fault)

/-- The fields of a command that was read. -/
def invocationOf (s : Subcommand) (m : Matched) : Invocation :=
  { command := .str s.name
    daemon := if s.level.switches.any (·.effect = .daemon) then some m.daemon else none
    text := m.operand }

/-- What the arguments after a program name ask for. -/
def read (g : Grammar) (columns : Nat) (program : Text) (arguments : List Text) :
    Except Refusal Invocation :=
  match g.outer.fit arguments with
  | .error .help =>
    .error
      { text := Layout.help columns program g.outer (some g.description) g.subcommands
        status := 0 }
  | .error (.fault fault) => .error (faultAt columns program g.outer fault)
  | .ok outer =>
    match g.readSubcommand columns program (outer.operand.getD []) with
    | .error refusal => .error refusal
    | .ok (s, m) =>
      let extras := outer.extras ++ m.extras
      if extras.isEmpty then .ok (invocationOf s m)
      else .error (faultAt columns program g.outer (.unrecognized extras))

end Grammar

/-- What a whole argument vector asks for; an empty one is taken for a call of the program that
runs. -/
def Surroundings.readCommand (s : Surroundings) (argv : List Text) : Except Refusal Invocation :=
  let program := match argv with
    | [] => s.nameOf none
    | argv0 :: _ => programName argv0
  controlGrammar.read s.columns program (argv.drop 1)

end ControlChannel
