import ControlChannel.Console.Styled
import ControlChannel.Text.Digit
import ControlChannel.Text.Pattern
import ControlChannel.Text.Word

/-!
# What stands out in a text

Numbers, addresses, paths, quoted texts and the like stand out on a console, each in a style of
its own name.

* `Highlight.patterns` — what stands out, in groups that are looked for one after the other;
* `Highlight.spans` — the spans of a text that stand out.
-/

namespace ControlChannel

namespace Highlight

open Pattern

/-- A pattern with the names of styles as marks. -/
abbrev Shape := Pattern Text

/-! ### Classes of characters -/

/-- A hexadecimal digit of either case. -/
def isHexDigit (c : CodePoint) : Bool := c.hexValue?.isSome

/-- A character of a class, or one of some others. -/
def isOf (test : CodePoint → Bool) (others : Text) (c : CodePoint) : Bool :=
  test c || others.contains c

/-- A character of a word. -/
def wordCharacter : Shape := one (·.isWordCharacter)

/-- An ASCII digit. -/
def digit : Shape := one (·.isDigit)

/-- A hexadecimal digit. -/
def hexDigit : Shape := one isHexDigit

/-- One of some characters. -/
def oneOf (text : Text) : Shape := one text.contains

/-- A place where a word begins or ends. -/
def wordEdge : Shape := here CodePoint.isWordEdge

/-- A place where no word begins or ends. -/
def noWordEdge : Shape := here fun before after => ! CodePoint.isWordEdge before after

/-! ### Tags, attributes and brackets -/

/-- A tag in angle brackets, as far as it can reach. -/
def tag : Shape :=
  sequence [
    marked "repr.tag_start" (character '<'),
    marked "repr.tag_name" (many (one (isOf (·.isWordCharacter) "-.:|"))),
    marked "repr.tag_contents" (many (one fun _ => true)),
    marked "repr.tag_end" (character '>')]

/-- The most characters of the name of an attribute. -/
def longestAttribute : Nat := 50

/-- A name and a value with an equals sign between them. -/
def attributes : Shape :=
  let quote : Shape := optional (character '"')
  sequence [
    marked "repr.attrib_name" (between 1 longestAttribute wordCharacter),
    character '=',
    optional (marked "repr.attrib_value" (sequence [quote, atLeastOne wordCharacter, quote]))]

/-- A bracket of any other kind. -/
def brace : Shape := marked "repr.brace" (oneOf "][\x7b\x7d()")

/-! ### Addresses -/

/-- An address of four numbers. -/
def ipv4 : Shape :=
  let number : Shape := between 1 3 digit
  let dot : Shape := character '.'
  marked "repr.ipv4" (sequence [number, dot, number, dot, number, dot, number])

/-- An address of hexadecimal numbers between colons. -/
def ipv6 : Shape :=
  let number : Shape := between 1 4 hexDigit
  let colons : Shape := sequence [character ':', optional (character ':')]
  marked "repr.ipv6" (sequence [between 1 7 (sequence [number, colons]), number])

/-- Numbers of so many hexadecimal digits with a mark between two of them. -/
def groups (count least most : Nat) (mark : CodePoint) : Shape :=
  let number : Shape := between least most hexDigit
  sequence [times (count - 1) (sequence [number, character mark]), number]

/-- A device address of eight octets. -/
def eui64 : Shape :=
  marked "repr.eui64" (anyOf [groups 8 1 2 '-', groups 8 1 2 ':', groups 4 4 4 '.'])

/-- A device address of six octets. -/
def eui48 : Shape :=
  marked "repr.eui48" (anyOf [groups 6 1 2 '-', groups 6 1 2 ':', groups 3 4 4 '.'])

/-- An identifier of five hexadecimal numbers. -/
def uuid : Shape :=
  let number (digits : Nat) : Shape := times digits hexDigit
  let dash : Shape := character '-'
  marked "repr.uuid"
    (sequence [number 8, dash, number 4, dash, number 4, dash, number 4, dash, number 12])

/-! ### Words and numbers -/

/-- A name in front of a round bracket.  No bracket belongs to a name, so the name ends where it
has to. -/
def call : Shape :=
  sequence [marked "repr.call" (run (isOf (·.isWordCharacter) ".")), character '(']

/-- A word that stands alone. -/
def word (style text : Text) : Shape := sequence [wordEdge, marked style (literal text), wordEdge]

/-- The words for truth and for nothing. -/
def constants : Shape :=
  anyOf [word "repr.bool_true" "True", word "repr.bool_false" "False", word "repr.none" "None"]

/-- Three dots. -/
def ellipsis : Shape := marked "repr.ellipsis" (literal "...")

/-- The exponent of a number, with as few digits or as many as there are. -/
def exponent (greedy : Bool) : Shape :=
  optional (sequence [character 'e', optional (oneOf "-+"),
    repeated greedy 1 none (one fun c => c.decimalValue?.isSome)])

/-- Digits, maybe with a point and more of them behind it. -/
def decimal : Shape :=
  sequence [atLeastOne digit, optional (character '.'), many digit]

/-- A place behind no word. -/
def wordStart : Shape := notBehind (·.isWordCharacter)

/-- A number with an imaginary part. -/
def complexNumber : Shape :=
  marked "repr.number_complex" (sequence [
    wordStart, optional (character '-'), decimal, exponent false,
    optional (sequence [oneOf "-+", decimal, exponent true]), character 'j'])

/-- A number, decimal or hexadecimal. -/
def number : Shape :=
  marked "repr.number" (either
    (sequence [wordStart, optional (character '-'), decimal, exponent false, wordEdge])
    (sequence [literal "0x", many hexDigit]))

/-! ### Paths and texts -/

/-- A path of a file, and the last name of it. -/
def path : Shape :=
  let part : Shape := one (isOf (·.isWordCharacter) "-._+")
  sequence [
    marked "repr.path"
      (sequence [noWordEdge, many (sequence [character '/', atLeastOne part]), character '/']),
    optional (marked "repr.filename" (many part))]

/-- The character that takes its meaning from the next one. -/
def backslash : CodePoint := '\\'

/-- A text of one line between two marks, of which a backslash takes the second one's meaning. -/
def quoted (mark : Text) : Shape :=
  sequence [optional (character 'b'), literal mark, few (one (· ≠ ('\n' : CodePoint))),
    notBehind (· = backslash), literal mark]

/-- A quoted text. -/
def string : Shape :=
  sequence [
    notBehind fun c => c = backslash || c.isWordCharacter,
    marked "repr.str" (anyOf [quoted "\x27\x27\x27", quoted "\x27",
      quoted "\x22\x22\x22", quoted "\x22"])]

/-- An address of the web or of a file. -/
def url : Shape :=
  marked "repr.url" (sequence [
    anyOf (["file", "https", "http", "ws", "wss"].map fun scheme : String => literal scheme),
    literal "://",
    many (one (isOf (·.isAsciiAlphanumeric) "-$_+!\x60(),.?/;:&=%#~@"))])

/-! ### All of them -/

/-- What stands out.  Of the last group, what comes earlier is taken before what comes later. -/
def patterns : List Shape :=
  [tag, attributes, brace,
    anyOf [ipv4, ipv6, eui64, eui48, uuid, call, constants, ellipsis, complexNumber, number, path,
      string, url]]

/-- The spans of a text that stand out, with the names of their styles. -/
def spans (text : Text) : List (Span Text) :=
  patterns.flatMap fun shape =>
    (shape.occurrences text).map fun part => ⟨part.start, part.stop, part.mark⟩

end Highlight

end ControlChannel
