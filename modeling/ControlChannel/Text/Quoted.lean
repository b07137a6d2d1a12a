import ControlChannel.Text.Printable
import ControlChannel.Text.Utf8

/-!
# Quoted text

How a text stands inside a message so that its bounds and its invisible characters show:
between quotes, with escapes.  Single quotes are used unless the text holds a single quote and
no double quote.
-/

namespace ControlChannel

/-- One code point inside quotes: the quote and the backslash are escaped, as is every
character that does not print. -/
def CodePoint.quotedWithin (mark c : CodePoint) : Text :=
  if c = mark || c = '\\' then ['\\', c]
  else if c = '\n' then "\\n"
  else if c = '\r' then "\\r"
  else if c = '\t' then "\\t"
  else if c.isPrintable then [c]
  else Utf8.escaped c

/-- The quote that a text is put in: the single one unless only it would need an escape. -/
def Text.quoteMark (text : Text) : CodePoint :=
  if text.contains '\'' && ! text.contains '"' then '"' else '\''

/-- A text between quotes. -/
def Text.quoted (text : Text) : Text :=
  let mark := text.quoteMark
  mark :: text.flatMap (CodePoint.quotedWithin mark) ++ [mark]

/-- A list of texts in brackets, each one quoted. -/
def Text.quotedList (texts : List Text) : Text :=
  "[" ++ Text.joined ", " (texts.map quoted) ++ "]"

end ControlChannel
