import ControlChannel.Console.Color

/-!
# Styles

A style is written in words: attributes such as `bold`, switched off by `not` before them, a
colour, a colour behind `on`, and a link.

* `Style`, `Style.read?` — a style, and the one that words write;
* `Style.toText` — a style written in one way;
* `Style.normalize` — the name of a style in a tag.  **Names of one style have one normal form**,
  and what writes no style is its own name;
* `Style.under`, `Style.paint` — a style under another one, and a text as a terminal is told to
  show it.  A link is not shown.
-/

namespace ControlChannel

/-- A style: the attributes that are switched on or off, the colours, and the link. -/
structure Style where
  attributes : List (Text × Bool) := []
  color : Option Color := none
  background : Option Color := none
  link : Option Text := none
  deriving DecidableEq

namespace Style

/-! ### Reading and writing -/

/-- An attribute: its name, its short name if there is one, and the number that switches a
terminal to it. -/
structure Attribute where
  name : Text
  short : Option Text
  code : Nat

/-- The attributes in the order in which they are written. -/
def attributeTable : List Attribute :=
  [⟨"bold", some "b", 1⟩, ⟨"dim", some "d", 2⟩, ⟨"italic", some "i", 3⟩,
    ⟨"underline", some "u", 4⟩, ⟨"blink", none, 5⟩, ⟨"blink2", none, 6⟩, ⟨"reverse", some "r", 7⟩,
    ⟨"conceal", some "c", 8⟩, ⟨"strike", some "s", 9⟩, ⟨"underline2", some "uu", 21⟩,
    ⟨"frame", none, 51⟩, ⟨"encircle", none, 52⟩, ⟨"overline", some "o", 53⟩]

/-- The attribute that a word names. -/
def attributeNamed? (word : Text) : Option Text :=
  (attributeTable.find? fun a => a.name = word || a.short = some word).map (·.name)

/-- The style with an attribute switched on or off. -/
def switch (s : Style) (name : Text) (on : Bool) : Style :=
  { s with attributes := (name, on) :: s.attributes }

/-- The words that ask for another one behind them. -/
def introducers : List Text := ["on", "not", "link"]

/-- The style that words add to this one, if they write one. -/
def extend? (s : Style) : List Text → Except Numeral.Fault (Option Style)
  | [] => .ok (some s)
  | [word] => do
    match attributeNamed? word.toLower with
    | some name => return some (s.switch name true)
    | none =>
      if introducers.contains word.toLower then return none
      else return (← Color.read? word).map fun color => { s with color := some color }
  | word :: next :: words => do
    let first := word.toLower
    if first = "on" then
      match ← Color.read? next with
      | some color => extend? { s with background := some color } words
      | none => return none
    else if first = "not" then
      match attributeNamed? next with
      | some name => extend? (s.switch name false) words
      | none => return none
    else if first = "link" then extend? { s with link := some next } words
    else
      match attributeNamed? first with
      | some name => extend? (s.switch name true) (next :: words)
      | none =>
        match ← Color.read? word with
        | some color => extend? { s with color := some color } (next :: words)
        | none => return none

/-- The word for no style. -/
def noStyle : Text := "none"

/-- The style that a text writes, if it writes one. -/
def read? (text : Text) : Except Numeral.Fault (Option Style) :=
  let words := Text.words text
  if words = [noStyle] then .ok (some {}) else extend? {} words

/-- The words for an attribute. -/
def attributeWords (name : Text) (on : Bool) : List Text := if on then [name] else ["not", name]

/-- The words of a style: attributes in their order, the colours, and the link. -/
def words (s : Style) : List Text :=
  let attributes := attributeTable.flatMap fun a =>
    (s.attributes.lookup a.name).elim [] (attributeWords a.name)
  let background : List Text := s.background.elim [] fun color => ["on", color.name]
  let link : List Text := s.link.elim [] fun link => ["link", link]
  attributes ++ s.color.toList.map (·.name) ++ background ++ link

/-- A style in words. -/
def toText (s : Style) : Text :=
  if s.words.isEmpty then noStyle else Text.joined " " s.words

/-- The normal form of the name of a style. -/
def normalize (name : Text) : Except Numeral.Fault Text := do
  match ← read? name with
  | some style => return style.toText
  | none => return (Text.trim (·.isBlank) name).toLower

/-! ### Showing -/

/-- A style with another one over it. -/
def under (s upper : Style) : Style :=
  { attributes := upper.attributes ++ s.attributes
    color := upper.color.or s.color
    background := upper.background.or s.background
    link := upper.link.or s.link }

/-- A style without its colours. -/
def withoutColor (s : Style) : Style := { s with color := none, background := none }

/-- The numbers that switch a terminal with so many colours to a style. -/
def codes (range : ColorRange) (s : Style) : List Nat :=
  (attributeTable.filter fun a => s.attributes.lookup a.name = some true).map (·.code)
    ++ s.color.elim [] (fun color => (color.shade.within range).codes false)
    ++ s.background.elim [] (fun color => (color.shade.within range).codes true)

/-- A text as a terminal with so many colours is told to show it in a style. -/
def paint (range : ColorRange) (s : Style) (text : Text) : Text :=
  let codes := s.codes range
  if text.isEmpty || codes.isEmpty then text
  else
    "\x1b[" ++ Text.joined ";" (codes.map Text.ofNat) ++ "m" ++ text ++ "\x1b[0m"

end Style

end ControlChannel
