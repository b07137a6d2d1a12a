import ControlChannel.Text.Width

/-!
# Graphemes: characters that are shown together

A joiner puts the character after it into the cells of what comes before, and an emoji selector
gives a narrow character before it a second cell.

* `Text.cells` — the terminal cells of a text;
* `Grapheme`, `Text.graphemes` — a text cut into the parts that no line break may divide;
* `Text.crop` — the beginning of a text that fits so many cells.
-/

namespace ControlChannel

/-- The character that joins the one after it to what comes before. -/
def joiner : CodePoint := 0x200D

/-- The character that asks for the one before it as an emoji. -/
def emojiSelector : CodePoint := 0xFE0F

/-- The cells that an emoji selector adds to the last character that has cells. -/
def addedCells (last : Option CodePoint) : Nat := if last.any (·.widens) then 1 else 0

/-- The cells of a text after so many others; `last` is the last character with cells that no
selector was applied to. -/
def cellsFrom (total : Nat) (last : Option CodePoint) : Text → Nat
  | [] => total
  | c :: rest =>
    if c = joiner then
      match rest with
      | [] => total
      | _ :: rest => cellsFrom total last rest
    else if c = emojiSelector then cellsFrom (total + addedCells last) none rest
    else cellsFrom (total + c.cells) (if 0 < c.cells then some c else last) rest

/-- The number of terminal cells of a text. -/
def Text.cells (text : Text) : Nat := cellsFrom 0 none text

/-- Characters that are shown together, and their cells. -/
structure Grapheme where
  text : Text
  cells : Nat
  deriving DecidableEq

namespace Grapheme

/-- Adds characters and cells to the last of the graphemes, which are in reverse order; without
any they are a grapheme of their own. -/
def extend (text : Text) (cells : Nat) : List Grapheme → List Grapheme
  | [] => [⟨text, cells⟩]
  | g :: before => ⟨g.text ++ text, g.cells + cells⟩ :: before

/-- The graphemes of a text after others, which are in reverse order; `last` is the last
character with cells that no selector was applied to. -/
def splitFrom (before : List Grapheme) (last : Option CodePoint) : Text → List Grapheme
  | [] => before.reverse
  | c :: rest =>
    if c = joiner && ! before.isEmpty then
      match rest with
      | [] => (extend [c] 0 before).reverse
      | d :: rest => splitFrom (extend [c, d] 0 before) last rest
    else if c = emojiSelector then splitFrom (extend [c] (addedCells last) before) none rest
    else if c.cells = 0 then splitFrom (extend [c] 0 before) last rest
    else splitFrom (⟨[c], c.cells⟩ :: before) (some c) rest

end Grapheme

/-- The graphemes of a text. -/
def Text.graphemes (text : Text) : List Grapheme := Grapheme.splitFrom [] none text

/-- The graphemes that fit so many cells; the cell that half a grapheme leaves is blank. -/
def Grapheme.crop (width : Nat) : List Grapheme → Text
  | [] => []
  | g :: rest =>
    if g.cells ≤ width then g.text ++ crop (width - g.cells) rest
    else List.replicate (min width 1) (0x20 : CodePoint)

/-- A text cut to so many cells. -/
def Text.crop (width : Nat) (text : Text) : Text :=
  if text.cells ≤ width then text else Grapheme.crop width text.graphemes

end ControlChannel
