import ControlChannel.Path
import ControlChannel.Text.Quoted
import ControlChannel.Text.UpperCase

/-!
# The log

Records have a number; those at least as grave as the level of the log are written to the
terminal or to a file.

* `LogFault`, `levelOf` — the number that the name of a level stands for;
* `Log.ofSettings`, `Log.records`, `Log.line` — where records go, which are written, and how.
-/

namespace ControlChannel

/-- The names of levels and their numbers. -/
def levelNumbers : List (Text × Int) :=
  [("CRITICAL", 50), ("FATAL", 50), ("ERROR", 40), ("WARNING", 30), ("WARN", 30), ("INFO", 20),
    ("DEBUG", 10), ("NOTSET", 0)]

/-- The level of a name that stands for none. -/
def defaultLevel : Int := 20

/-- Why a name gives no level at all: it stands for something that is no number. -/
inductive LogFault
  | unknownLevel (shown : Text)
  | notALevel (shown : Text)
  deriving DecidableEq

/-- The wording of a name that gives no level. -/
def LogFault.message : LogFault → Text
  | unknownLevel shown => "Unknown level: " ++ shown
  | notALevel shown => "Level not an integer or a valid string: " ++ shown

/-- The template of a plain record. -/
def plainTemplate : Text := "%(levelname)s:%(name)s:%(message)s"

/-- The table of template styles, as it is shown. -/
def templateStyles : Text :=
  "\x7b'%': (<class 'logging.PercentStyle'>, '%(levelname)s:%(name)s:%(message)s'), "
    ++ "'\x7b': (<class 'logging.StrFormatStyle'>, '\x7blevelname\x7d:\x7bname\x7d:\x7bmessage\x7d'), "
    ++ "'$': (<class 'logging.StringTemplateStyle'>, "
    ++ "'$\x7blevelname\x7d:$\x7bname\x7d:$\x7bmessage\x7d')\x7d"

/-- The names that stand for templates. -/
def templateNames : List (Text × LogFault) :=
  [("BASIC_FORMAT", .unknownLevel plainTemplate.quoted), ("_STYLES", .notALevel templateStyles)]

/-- The number of a level, whose name may be in any case of letters. -/
def levelOf (name : Text) : Except LogFault Int :=
  let name := name.toUpper
  match templateNames.lookup name with
  | some fault => .error fault
  | none => .ok ((levelNumbers.lookup name).getD defaultLevel)

/-- A log: its level, and the file that it goes to instead of the terminal. -/
structure Log where
  level : Int
  file : Option Path
  deriving DecidableEq

namespace Log

/-- The log for these settings. -/
def ofSettings (level : Text) (file : Option Path) : Except LogFault Log :=
  (levelOf level).map fun number => { level := number, file }

/-- The name that a record shows for its number. -/
def levelName (number : Int) : Text :=
  match levelNumbers.find? (·.2 = number) with
  | some (name, _) => name
  | none => "Level " ++ Text.ofInt number

/-- A record without its date and time. -/
def line (source : Text) (number : Int) (message : Text) : Text :=
  "[" ++ levelName number ++ "] " ++ source ++ ": " ++ message

/-- The lines of the records that are written: grave enough, above zero, and of characters that
have octets. -/
def records (log : Log) (source : Text) (messages : List (Int × Text)) : List Text :=
  (messages.filter fun (number, message) =>
    log.level ≤ number && 0 < number && ! message.any (·.isSurrogate)).map
    fun (number, message) => line source number message

end Log

end ControlChannel
