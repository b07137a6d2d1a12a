import ControlChannel.Console.Emoji.Table
import ControlChannel.Text.Blank
import ControlChannel.Text.LowerCase

/-!
# Emoji codes

A name between two colons stands for an emoji, as in `:warning:`.

* `Emoji.find?` — the emoji of a name, a skin tone and the flag of a country included;
* `Emoji.body?`, `Emoji.meaning?` — the code that begins behind a colon, and what it stands for;
* `Emoji.replace` — a text with its codes replaced.  **A code without an emoji stays as it is**,
  and its second colon begins no other code.
-/

namespace ControlChannel

namespace Emoji

/-! ### Names -/

/-- An emoji under one of its names. -/
structure Entry where
  name : Text
  emoji : Text
  /-- Whether the name of a skin tone may follow. -/
  takesTone : Bool
  /-- Whether the name is that of a country, whose flag the emoji is. -/
  isCountry : Bool

/-- An entry as it is written in the table: a name with its marks. -/
def Entry.ofMarked (emoji marked : Text) : Entry :=
  let isMark (c : CodePoint) : Bool := c = '~' || c = '^'
  { name := Text.dropEndWhile isMark marked
    emoji
    takesTone := marked.contains '~'
    isCountry := marked.contains '^' }

/-- The entries of the table. -/
def entries : List Entry :=
  (Text.splitOn ';' table).flatMap fun line =>
    match Text.words line with
    | [] => []
    | emoji :: names => names.map (Entry.ofMarked emoji)

/-- The sign that lets a character before it be shown as an emoji. -/
def emojiSign : CodePoint := 0xFE0F

/-- The sign that lets a character before it be shown as text. -/
def textSign : CodePoint := 0xFE0E

/-- The skin tones and the ends of the names that ask for them. -/
def tones : List (Text × CodePoint) :=
  [("_medium-light_skin_tone", 0x1F3FC), ("_medium-dark_skin_tone", 0x1F3FE),
    ("_light_skin_tone", 0x1F3FB), ("_medium_skin_tone", 0x1F3FD), ("_dark_skin_tone", 0x1F3FF)]

/-- An emoji in a skin tone, which takes the place of an emoji sign behind the first
character. -/
def inTone (tone : CodePoint) : Text → Text
  | [] => []
  | [c] => [c, tone]
  | c :: d :: rest => if d = emojiSign then c :: tone :: rest else c :: tone :: d :: rest

/-- What stands in front of the name of a country to ask for its flag. -/
def flagWords : Text := "flag_for_"

/-- The emoji of a name. -/
def find? (name : Text) : Option Text :=
  match entries.find? (·.name = name) with
  | some entry => some entry.emoji
  | none =>
    match Text.dropFirst? flagWords name with
    | some country => (entries.find? fun e => e.isCountry && e.name = country).map (·.emoji)
    | none =>
      tones.findSome? fun (ending, tone) =>
        if Text.startsWith name.reverse ending.reverse then
          let bare := name.take (name.length - ending.length)
          (entries.find? fun e => e.takesTone && e.name = bare).map fun e => inTone tone e.emoji
        else none

/-! ### Codes -/

/-- The colon at either end of a code. -/
def colon : CodePoint := ':'

/-- The endings of a name that ask for a way to show the emoji, and the sign for it. -/
def variants : List (Text × CodePoint) := [("-emoji", emojiSign), ("-text", textSign)]

/-- What the body of a code stands for, in any case of letters. -/
def meaning? (body : Text) : Option Text :=
  match variants.find? fun (ending, _) => Text.startsWith body.reverse ending.reverse with
  | some (ending, sign) =>
    (find? (Text.toLower (body.take (body.length - ending.length)))).map (· ++ [sign])
  | none => find? body.toLower

/-- The body of the code that begins with a colon in front of a text: up to the next colon,
without blanks. -/
def body? (text : Text) : Option Text :=
  let body := text.takeWhile fun c => c ≠ colon && ! c.isBlank
  if text[body.length]? = some colon then some body else none

/-- A text with its codes replaced by what they stand for; `done` is what comes before it, last
character first. -/
def replaceFrom (done : Text) (text : Text) : Text :=
  match text with
  | [] => done.reverse
  | c :: rest =>
    match if c = colon then body? rest else none with
    | some body =>
      let shown := (meaning? body).getD (colon :: body ++ [colon])
      replaceFrom (shown.reverse ++ done) (rest.drop (body.length + 1))
    | none => replaceFrom (c :: done) rest
termination_by text.length
decreasing_by all_goals (simp only [List.length_cons, List.length_drop]; omega)

/-- A text with its codes replaced by what they stand for. -/
def replace (text : Text) : Text := replaceFrom [] text

end Emoji

end ControlChannel
