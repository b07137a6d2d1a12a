import ControlChannel.Environment

/-!
# Variables from a file

A file binds names to values.  How it is written, and what stands for a reference to another variable
in a value, is a matter of the library that reads it.

* `EnvFile.Binding`, `EnvFile.Reader` — a name with its value, and the library;
* `EnvFile.resolve` — the bindings of a file with their references replaced;
* `Environment.adopt` — the variables with those of a file added.
-/

namespace ControlChannel

namespace EnvFile

/-- A name and its value, if it was given one. -/
structure Binding where
  name : Text
  value : Option Text
  deriving DecidableEq

/-- The library that reads files of variables. -/
class Reader where
  /-- The bindings of a file, in order. -/
  bindings : Text → List Binding
  /-- A value with its references replaced by what the names are known to stand for. -/
  expand : (Text → Option Text) → Text → Text

/-- Gives a name a value: in place of its old one, or at the end. -/
def assign (bound : List Binding) (b : Binding) : List Binding :=
  if bound.any (·.name = b.name) then
    bound.map fun old => if old.name = b.name then b else old
  else bound ++ [b]

/-- The value that a reference finds: the environment's, else that of an earlier binding; a name
that is bound to no value counts as empty. -/
def known (e : Environment) (bound : List Binding) (name : Text) : Option Text :=
  match e.get? name with
  | some value => some value
  | none => (bound.find? (·.name = name)).map fun b => b.value.getD []

/-- The bindings of a file with their references replaced, one for each name: the last one, at
the place of the first. -/
def resolve [Reader] (e : Environment) (file : List Binding) : List Binding :=
  file.foldl
    (fun bound b => assign bound { b with value := b.value.map (Reader.expand (known e bound)) }) []

end EnvFile

namespace Environment

/-- Why a variable cannot be set. -/
inductive SetFault
  | nullCharacter
  | equalsSign
  deriving DecidableEq

/-- The wording of a variable that cannot be set. -/
def SetFault.message : SetFault → Text
  | nullCharacter => "embedded null byte"
  | equalsSign => "illegal environment variable name"

/-- Sets a variable, if the system can hold it. -/
def set? (e : Environment) (name value : Text) : Except SetFault Environment :=
  if name.contains 0 || value.contains 0 then .error .nullCharacter
  else if name.contains '=' then .error .equalsSign
  else .ok (e.set name value)

/-- The variables with those of a file added; **none that is set already is changed**. -/
def adopt [EnvFile.Reader] (e : Environment) (file : List EnvFile.Binding) :
    Except SetFault Environment :=
  (EnvFile.resolve e file).foldlM
    (fun e b =>
      match e.get? b.name, b.value with
      | none, some value => e.set? b.name value
      | _, _ => .ok e)
    e

end Environment

end ControlChannel
