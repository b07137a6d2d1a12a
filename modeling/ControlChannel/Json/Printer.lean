import ControlChannel.Json.Value

/-!
# JSON as text

The written form of a value: members in order, `", "` between two items, `": "` after a name,
and inside quotes only the quote, the backslash and the control characters escaped.  All
other characters stand for themselves.
-/

namespace ControlChannel

namespace Json

/-- One code point inside quotes. -/
def escape (c : CodePoint) : Text :=
  if c = '"' then "\\\""
  else if c = '\\' then "\\\\"
  else if c = '\n' then "\\n"
  else if c = '\r' then "\\r"
  else if c = '\t' then "\\t"
  else if c.val = 0x08 then "\\b"
  else if c.val = 0x0C then "\\f"
  else if c.val < 0x20 then "\\u" ++ Text.hex 4 c.val
  else [c]

/-- A text between quotes. -/
def renderText (text : Text) : Text := (0x22 : CodePoint) :: (text.flatMap escape ++ [0x22])

/-- A number of either kind; the infinities and not-a-number have words. -/
def renderDouble : Double → Text
  | .nan => "NaN"
  | .infinite negative => if negative then "-Infinity" else "Infinity"
  | number => number.numeral

mutual

/-- The written form of a value. -/
def render : Json → Text
  | null => "null"
  | bool value => if value then "true" else "false"
  | int value => Text.ofInt value
  | double value => renderDouble value
  | str value => renderText value
  | list items => "[" ++ Text.joined ", " (renderItems items) ++ "]"
  | object members => "\x7b" ++ Text.joined ", " (renderMembers members) ++ "\x7d"

/-- The written forms of the items of a list. -/
def renderItems : List Json → List Text
  | [] => []
  | item :: items => item.render :: renderItems items

/-- The written forms of the members of an object. -/
def renderMembers : List (Text × Json) → List Text
  | [] => []
  | (name, value) :: members => (renderText name ++ ": " ++ value.render) :: renderMembers members

end

end Json

end ControlChannel
