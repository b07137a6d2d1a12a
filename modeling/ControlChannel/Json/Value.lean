import ControlChannel.Decimal.Shortest
import ControlChannel.Text.Quoted

/-!
# JSON values

The values that a message payload is made of.  Numbers come in two kinds that never mix: an
**integer is no double and neither is a truth value**.

* `Json` — the values; an object keeps its members in the order in which they were first named;
* `Json.assign`, `Json.settle` — of two members of one name the later value stays, at the
  place of the earlier one;
* `Json.kindName`, `Json.display` — how a value is named and shown in a refusal.
-/

namespace ControlChannel

/-- A JSON value. -/
inductive Json
  | null
  | bool (value : Bool)
  | int (value : Int)
  | double (value : Double)
  | str (value : Text)
  | list (items : List Json)
  | object (members : List (Text × Json))
  deriving Inhabited

namespace Json

/-- Gives `name` a value: in place of its old one, or at the end. -/
def assign (members : List (Text × Json)) (name : Text) (value : Json) : List (Text × Json) :=
  if members.any (·.1 = name) then
    members.map fun member => if member.1 = name then (name, value) else member
  else members ++ [(name, value)]

/-- The members of an object written with these, where a name may come more than once. -/
def settle (written : List (Text × Json)) : List (Text × Json) :=
  written.foldl (fun members (name, value) => assign members name value) []

/-- The value of a member. -/
def member? (name : Text) (members : List (Text × Json)) : Option Json :=
  (members.find? (·.1 = name)).map (·.2)

/-- The name of a value's kind. -/
def kindName : Json → Text
  | null => "NoneType"
  | bool _ => "bool"
  | int _ => "int"
  | double _ => "float"
  | str _ => "str"
  | list _ => "list"
  | object _ => "dict"

mutual

/-- How a value is shown inside a message. -/
def display : Json → Text
  | null => "None"
  | bool value => if value then "True" else "False"
  | int value => Text.ofInt value
  | double value => value.numeral
  | str value => value.quoted
  | list items => "[" ++ Text.joined ", " (displayItems items) ++ "]"
  | object members => "\x7b" ++ Text.joined ", " (displayMembers members) ++ "\x7d"

/-- The items of a list, each shown. -/
def displayItems : List Json → List Text
  | [] => []
  | item :: items => item.display :: displayItems items

/-- The members of an object, each shown. -/
def displayMembers : List (Text × Json) → List Text
  | [] => []
  | (name, value) :: members => (name.quoted ++ ": " ++ value.display) :: displayMembers members

end

end Json

end ControlChannel
