import ControlChannel.Text.Utf8

/-!
# The texts that a stream takes

A stream writes texts in an encoding, and an encoding may lack code points.  A text with one of them
is refused as a whole.

* `Charset` — an encoding, told by the code points that it lacks, with `Charset.whole`,
  `Charset.utf8` and `Charset.ascii`;
* `Charset.refusal?` — the first run of such code points in a text;
* `Charset.Takes` — the texts that are taken: **those in which no such code point stands**.
-/

namespace ControlChannel

/-- An encoding of a stream. -/
structure Charset where
  name : Text
  /-- What it says of a code point that it lacks. -/
  reason : Text
  /-- The code points that it lacks: the first and the last one of each range. -/
  gaps : List (Nat × Nat)
  deriving DecidableEq

namespace Charset

/-- A stream in memory, which keeps texts as they are. -/
def whole : Charset := { name := [], reason := [], gaps := [] }

/-- UTF-8, which has no lone surrogates. -/
def utf8 : Charset :=
  { name := "utf-8", reason := "surrogates not allowed", gaps := [(0xD800, 0xDFFF)] }

/-- ASCII. -/
def ascii : Charset :=
  { name := "ascii", reason := "ordinal not in range(128)", gaps := [(0x80, 0x10FFFF)] }

/-- Whether a code point is lacking. -/
def lacks (charset : Charset) (c : CodePoint) : Bool :=
  charset.gaps.any fun (first, last) => first ≤ c.val && c.val ≤ last

/-- A run of code points that are lacking, in a text that is refused. -/
structure Fault where
  charset : Charset
  position : Nat
  run : Text
  deriving DecidableEq

/-- The wording of a refused text. -/
def Fault.message (fault : Fault) : Text :=
  Utf8.unencodableText fault.charset.name fault.charset.reason fault.position fault.run

/-- The first run of code points in a text that are lacking. -/
def refusal? (charset : Charset) (text : Text) : Option Fault :=
  match text.dropWhile (! charset.lacks ·) with
  | [] => none
  | bad => some
      { charset, position := text.length - bad.length, run := bad.takeWhile charset.lacks }

/-- No code point of a text is lacking. -/
def Takes (charset : Charset) (text : Text) : Prop := ∀ c ∈ text, charset.lacks c = false

instance (charset : Charset) (text : Text) : Decidable (charset.Takes text) :=
  decidable_of_iff (text.all (! charset.lacks ·)) (by simp [Takes])

end Charset

end ControlChannel
