import ControlChannel.Text.Basic

/-!
# The grammar of the command line

What the words of a command line mean is data: the switches of a level, and the operand that
follows them.  The outer level takes a command with everything after it; the level of a command
takes switches and perhaps words.

* `Switch`, `Operand`, `Level` — one level of the command line;
* `Subcommand`, `Grammar` — the commands and the outer level;
* `controlGrammar` — the commands of a running instance: `run`, `status`, `ping`, `echo`, `kill`.
-/

namespace ControlChannel

/-- What a switch does. -/
inductive Switch.Effect
  /-- Shows the help text and ends. -/
  | help
  /-- Turns the running of a service in the background on. -/
  | daemon
  deriving DecidableEq

/-- An option that takes no value. -/
structure Switch where
  /-- Its spellings, the one that usage lines show first. -/
  names : List Text
  effect : Switch.Effect
  help : Text
  deriving DecidableEq

/-- What follows the switches of a level. -/
inductive Operand
  /-- One or more words. -/
  | words (name : Text)
  /-- A command and everything after it. -/
  | command (name : Text)
  deriving DecidableEq

/-- One level of the command line. -/
structure Level where
  switches : List Switch
  operand : Option Operand
  deriving DecidableEq

/-- A command with the level that follows it. -/
structure Subcommand where
  name : Text
  help : Text
  level : Level
  deriving DecidableEq

/-- A whole command line. -/
structure Grammar where
  description : Text
  outer : Level
  subcommands : List Subcommand
  deriving DecidableEq

/-- The name that usage lines show for an operand. -/
def Operand.name : Operand → Text
  | words name => name
  | command name => name

/-- The switch that every level has. -/
def helpSwitch : Switch :=
  { names := ["-h", "--help"], effect := .help, help := "show this help message and exit" }

/-- The switch that starts a service in the background. -/
def daemonSwitch : Switch :=
  { names := ["--daemon", "-d"], effect := .daemon, help := "Run as daemon (background process)" }

/-- A level with the help switch alone. -/
def plainLevel : Level := { switches := [helpSwitch], operand := none }

/-- The commands of a running instance. -/
def controlGrammar : Grammar :=
  { description := "Control a running instance from the command line"
    outer := { switches := [helpSwitch], operand := some (.command "COMMAND") }
    subcommands := [
      { name := "run", help := "Start the service"
        level := { switches := [helpSwitch, daemonSwitch], operand := none } },
      { name := "status", help := "Show the running instance's status", level := plainLevel },
      { name := "ping", help := "Check that the instance responds", level := plainLevel },
      { name := "echo", help := "Send text back from the instance"
        level := { switches := [helpSwitch], operand := some (.words "text") } },
      { name := "kill", help := "Stop the running instance", level := plainLevel }] }

end ControlChannel
