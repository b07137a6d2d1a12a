import ControlChannel.Text.Ranges

/-!
# Blank characters

The characters that separate words: the white space and separator controls of the Unicode
character database.  `isAsciiBlank` is the part of it within ASCII that number readers skip, and
`Text.words` cuts a text at its blanks.
-/

namespace ControlChannel

/-- The blank characters. -/
def blankRanges : Ranges := ⟨#[
  0x9, 0xE, 0x1C, 0x21, 0x85, 0x86, 0xA0, 0xA1, 0x1680, 0x1681, 0x2000, 0x200B,
  0x2028, 0x202A, 0x202F, 0x2030, 0x205F, 0x2060, 0x3000, 0x3001]⟩

namespace CodePoint

/-- White space of any kind. -/
def isBlank (c : CodePoint) : Bool := blankRanges.holds c

/-- White space of ASCII: tab to carriage return, and the space. -/
def isAsciiBlank (c : CodePoint) : Bool := c.val = 0x20 || (0x09 ≤ c.val && c.val ≤ 0x0D)

end CodePoint

/-- The words of a text, with its blanks taken out. -/
def Text.words (text : Text) : List Text :=
  (Text.splitOn ' ' (text.map fun c => if c.isBlank then 0x20 else c)).filter (! ·.isEmpty)

end ControlChannel
