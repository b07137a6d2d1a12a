import ControlChannel.Command.Grammar
import ControlChannel.Text.Digit
import ControlChannel.Text.Quoted

/-!
# Matching arguments

An argument vector is matched with a level in two steps: every argument is first marked as a
word, a switch or the double dash, then the marked arguments are taken from left to right.

* `Mark`, `Level.mark`, `Level.marks` — what an argument looks like by itself;
* `Level.cluster` — the switches that one argument stands for;
* `Level.match` — a whole vector: the switches, the operand, and the arguments left over;
* `UsageFault` — why a vector does not fit.

A switch may be shortened to any beginning that fits no other one; after a double dash all
arguments are words; a negative number and an argument with a space are words, too.
-/

namespace ControlChannel

/-- Why an argument vector does not fit. -/
inductive UsageFault
  /-- A shortened switch could be any of these. -/
  | ambiguous (argument : Text) (candidates : List Text)
  /-- A switch that takes no value was given one. -/
  | valueGiven (names : List Text) (value : Text)
  | invalidChoice (operand value : Text) (choices : List Text)
  | missing (operand : Text)
  | unrecognized (arguments : List Text)
  deriving DecidableEq

/-- The wording of a misfit. -/
def UsageFault.message : UsageFault → Text
  | ambiguous argument candidates =>
    "ambiguous option: " ++ argument ++ " could match " ++ Text.joined ", " candidates
  | valueGiven names value =>
    "argument " ++ Text.joined "/" names ++ ": ignored explicit argument " ++ value.quoted
  | invalidChoice operand value choices =>
    "argument " ++ operand ++ ": invalid choice: " ++ value.quoted ++ " (choose from "
      ++ Text.joined ", " (choices.map Text.quoted) ++ ")"
  | missing operand => "the following arguments are required: " ++ operand
  | unrecognized arguments => "unrecognized arguments: " ++ Text.joined " " arguments

/-- A switch as it was found in an argument: its spelling, and a value given with it. -/
structure Hit where
  switch : Switch
  spelling : Text
  value : Option Text
  deriving DecidableEq

/-- What an argument looks like by itself. -/
inductive Mark
  | word
  /-- The first double dash. -/
  | dashes
  | switch (hit : Hit)
  /-- It begins with a dash and is no known switch. -/
  | unknown
  deriving DecidableEq

namespace Level

/-- The character that switches begin with. -/
def dash : CodePoint := 0x2D

/-- The switches of a level with each of their spellings. -/
def spellings (l : Level) : List (Text × Switch) :=
  l.switches.flatMap fun s => s.names.map fun name => (name, s)

/-- An argument cut at its first equals sign. -/
def cutAtEquals (argument : Text) : Text × Option Text :=
  let spelling := argument.takeWhile (· ≠ ('=' : CodePoint))
  match argument.dropWhile (· ≠ ('=' : CodePoint)) with
  | [] => (spelling, none)
  | _ :: value => (spelling, some value)

/-- Whether an argument is a negative number in digits of any script; one line feed may end
it. -/
def isNegativeNumber (argument : Text) : Bool :=
  let body := argument.drop 1
  let body := if body.getLast? = some 0x0A then body.dropLast else body
  let isDigit (c : CodePoint) : Bool := c.decimalValue?.isSome
  match body.dropWhile isDigit with
  | [] => ! body.isEmpty
  | c :: fraction => c = '.' && ! fraction.isEmpty && fraction.all isDigit

/-- The switches that an argument may be a shortening of. -/
def candidates (l : Level) (argument : Text) : List Hit :=
  if Text.startsWith argument "--" then
    let (spelling, value) := cutAtEquals argument
    l.spellings.filterMap fun (name, s) =>
      if name.startsWith spelling then some ⟨s, name, value⟩ else none
  else
    l.spellings.filterMap fun (name, s) =>
      if name = argument.take 2 then some ⟨s, name, some (argument.drop 2)⟩
      else if name.startsWith argument then some ⟨s, name, none⟩
      else none

/-- What an argument before the double dash looks like. -/
def mark (l : Level) (argument : Text) : Except UsageFault Mark :=
  let (spelling, value) := cutAtEquals argument
  if argument.head? ≠ some dash || argument.length = 1 then .ok .word
  else
    match l.spellings.lookup argument, l.spellings.lookup spelling with
    | some s, _ => .ok (.switch ⟨s, argument, none⟩)
    | none, some s => .ok (.switch ⟨s, spelling, value⟩)
    | none, none =>
      match l.candidates argument with
      | [] =>
        if isNegativeNumber argument || argument.contains ' ' then .ok .word else .ok .unknown
      | [hit] => .ok (.switch hit)
      | hits => .error (.ambiguous argument (hits.map (·.spelling)))

/-- Every argument with its mark. -/
def marks (l : Level) : List Text → Except UsageFault (List (Mark × Text))
  | [] => .ok []
  | argument :: arguments =>
    if argument = ("--" : Text) then
      .ok ((.dashes, argument) :: arguments.map fun word => (.word, word))
    else do
      let m ← l.mark argument
      let ms ← l.marks arguments
      return (m, argument) :: ms

/-- Whether an argument is marked as a switch, known or not. -/
def isOption (marked : Mark × Text) : Bool :=
  match marked.1 with
  | .switch _ => true
  | .unknown => true
  | _ => false

/-- The switches that one argument stands for: of a switch with a single dash, what follows its
letter are the letters of more. -/
def cluster (l : Level) (hit : Hit) : Except UsageFault (List Switch) :=
  match hit.value with
  | none => .ok [hit.switch]
  | some value =>
    let refused : Except UsageFault (List Switch) := .error (.valueGiven hit.switch.names value)
    if hit.spelling.startsWith "--" then refused
    else letters hit.switch value
where
  /-- The switches of the letters `value`, after one of which `before` was the last. -/
  letters (before : Switch) : Text → Except UsageFault (List Switch)
    | [] => .error (.valueGiven before.names [])
    | letter :: others =>
      match l.spellings.lookup [dash, letter] with
      | none => .error (.valueGiven before.names (letter :: others))
      | some s =>
        if others.isEmpty then .ok [before, s]
        else do
          let rest ← letters s others
          return before :: rest

/-- The operand at the front of marked arguments, and those after it: a command takes all that
follow, words end before the next switch.  A double dash may come first. -/
def takeOperand (operand : Operand) (marked : List (Mark × Text)) :
    Option (List Text × List (Mark × Text)) :=
  match marked.dropWhile (·.1 = .dashes) with
  | [] => none
  | first :: _ =>
    if first.1 = .word then
      match operand with
      | .command _ => some (marked.map (·.2), [])
      | .words _ =>
        let taken := (marked.takeWhile (! isOption ·)).map (·.2)
        some (taken.erase "--", marked.dropWhile (! isOption ·))
    else none

end Level

/-- What a level has taken from an argument vector. -/
structure Matched where
  /-- The operand, if one was taken. -/
  operand : Option (List Text) := none
  /-- Whether a service in the background is asked for. -/
  daemon : Bool := false
  /-- The arguments that nothing has taken. -/
  extras : List Text := []
  deriving DecidableEq

/-- Why matching ends early. -/
inductive Stop
  | help
  | fault (fault : UsageFault)
  deriving DecidableEq

namespace Level

/-- Lets switches have their effects, in order. -/
def apply (m : Matched) : List Switch → Except Stop Matched
  | [] => .ok m
  | s :: rest =>
    match s.effect with
    | .help => .error .help
    | .daemon => apply { m with daemon := true } rest

/-- Takes the argument at the front, which is marked as a switch. -/
def takeSwitch (l : Level) (m : Matched) (marked : Mark × Text) : Except Stop Matched :=
  match marked.1 with
  | .switch hit =>
    match l.cluster hit with
    | .ok switches => apply m switches
    | .error fault => .error (.fault fault)
  | _ => .ok { m with extras := m.extras ++ [marked.2] }

/-- Takes the operand at the front, if the level has one that is not taken yet. -/
def offer (l : Level) (m : Matched) (marked : List (Mark × Text)) :
    Option (Matched × List (Mark × Text)) :=
  match l.operand, m.operand with
  | some operand, none =>
    (takeOperand operand marked).map fun (taken, rest) => ({ m with operand := some taken }, rest)
  | _, _ => none

/-- Takes marked arguments from left to right.  The first argument bounds the steps: twice their
number suffices. -/
def takeAll (l : Level) : Nat → Matched → List (Mark × Text) → Except Stop Matched
  | 0, m, _ => .ok m
  | _ + 1, m, [] => .ok m
  | fuel + 1, m, first :: rest =>
    if isOption first then do
      let m ← l.takeSwitch m first
      takeAll l fuel m rest
    else
      match l.offer m (first :: rest) with
      | some (m, rest) => takeAll l fuel m rest
      | none =>
        let skipped := (first :: rest).takeWhile (! isOption ·)
        takeAll l fuel { m with extras := m.extras ++ skipped.map (·.2) }
          ((first :: rest).dropWhile (! isOption ·))

/-- Matches a whole argument vector: the operand of the level must be there. -/
def fit (l : Level) (arguments : List Text) : Except Stop Matched := do
  let marked ← (l.marks arguments).mapError .fault
  let m ← l.takeAll (2 * marked.length) {} marked
  match l.operand, m.operand with
  | some operand, none => .error (.fault (.missing operand.name))
  | _, _ => return m

end Level

end ControlChannel
