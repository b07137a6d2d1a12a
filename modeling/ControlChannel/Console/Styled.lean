import ControlChannel.Text.Grapheme

/-!
# Styled texts

A text for the console, with spans of it that are to look in some way.  A line break cuts the
spans that reach over it, and a tab stop does too.

* `Span`, `Styled` — a span, and a text with its spans;
* `Styled.cut`, `Styled.lines` — parts of a styled text.  **A part keeps just
  the spans that hold a character of it**;
* `Styled.expandTabs` — a line with its tabs as blanks;
* `Styled.dropEnd`, `Styled.crop` — a line made shorter;
* `Styled.segments` — a line cut wherever a span begins or ends.
-/

namespace ControlChannel

/-- A part of a text and how it is to look. -/
structure Span (Look : Type) where
  start : Nat
  stop : Nat
  look : Look
  deriving DecidableEq

/-- A text with spans of it, those that are laid over others behind them. -/
structure Styled (Look : Type) where
  text : Text
  spans : List (Span Look) := []
  deriving DecidableEq

namespace Span

variable {Look : Type}

/-- A span so many characters later. -/
def shift (distance : Nat) (s : Span Look) : Span Look :=
  { s with start := s.start + distance, stop := s.stop + distance }

/-- What a span is in a part of the text, if it holds a character of it. -/
def inside? (start stop : Nat) (s : Span Look) : Option (Span Look) :=
  let first := s.start - start
  let last := min s.stop stop - start
  if first < last then some { s with start := first, stop := last } else none

/-- What a span is in a text that ends earlier, if it begins there. -/
def before? (stop : Nat) (s : Span Look) : Option (Span Look) :=
  if s.start < stop then some { s with stop := min s.stop stop } else none

/-- A span that goes on for so many characters if it reaches a place. -/
def extend (place count : Nat) (s : Span Look) : Span Look :=
  if place ≤ s.stop then { s with stop := s.stop + count } else s

end Span

namespace Styled

variable {Look : Type}

/-- A styled text with other looks, unless there is none for one of them. -/
def mapLooks {Other Fault : Type} (s : Styled Look) (look : Look → Except Fault Other) :
    Except Fault (Styled Other) := do
  let spans ← s.spans.mapM fun span => do return { span with look := ← look span.look }
  return { text := s.text, spans }

/-! ### Parts -/

/-- Parts of so many characters one behind the other, with `gap` characters between two of them,
of the text behind the first `start` characters. -/
def slicesFrom (spans : List (Span Look)) (gap start : Nat) (text : Text) :
    List Nat → List (Styled Look)
  | [] => []
  | length :: lengths =>
    { text := text.take length, spans := spans.filterMap (·.inside? start (start + length)) }
      :: slicesFrom spans gap (start + length + gap) (text.drop (length + gap)) lengths

/-- A styled text in parts of so many characters.  What is not cut stays as it is. -/
def cut (s : Styled Look) (gap : Nat) : List Nat → List (Styled Look)
  | [] => [s]
  | [_] => [s]
  | lengths => slicesFrom s.spans gap 0 s.text lengths

/-- The lines of a styled text. -/
def lines (s : Styled Look) : List (Styled Look) :=
  s.cut 1 ((Text.splitOn '\n' s.text).map (·.length))

/-- Two styled texts, one behind the other. -/
def append (s t : Styled Look) : Styled Look :=
  { text := s.text ++ t.text, spans := s.spans ++ t.spans.map (·.shift s.text.length) }

/-! ### Tabs -/

/-- The distance between two tab stops. -/
def tabStop : Nat := 8

/-- The parts of a line that end with its tabs, and what is behind the last of them. -/
def tabParts (s : Styled Look) : List (Styled Look) :=
  match (Text.splitOn '\t' s.text).reverse.map (·.length) with
  | [] => []
  | last :: lengths =>
    let lengths := lengths.reverse.map (· + 1)
    slicesFrom s.spans 0 0 s.text (if last = 0 then lengths else lengths ++ [last])

/-- A part with the tab at its end as a blank, and so many more. -/
def blankTab (s : Styled Look) (count : Nat) : Styled Look :=
  { text := s.text.dropLast ++ List.replicate (count + 1) (0x20 : CodePoint)
    spans := s.spans.map (·.extend s.text.length count) }

/-- Parts of a line behind so many cells, with the tabs at their ends as blanks up to the next
tab stop. -/
def expandParts (column : Nat) : List (Styled Look) → Styled Look
  | [] => { text := [] }
  | part :: parts =>
    if part.text.getLast? = some '\t' then
      let column := column + (part.blankTab 0).text.cells
      let blanks := (tabStop - column % tabStop) % tabStop
      (part.blankTab blanks).append (expandParts (column + blanks) parts)
    else part.append (expandParts (column + part.text.cells) parts)

/-- A line with its tabs as blanks, at least one for each. -/
def expandTabs (s : Styled Look) : Styled Look :=
  if s.text.contains '\t' then expandParts 0 s.tabParts else s

/-! ### Shorter lines -/

/-- A styled text without so many characters at its end. -/
def dropEnd (s : Styled Look) (count : Nat) : Styled Look :=
  let length := s.text.length - count
  if count = 0 then s
  else { text := s.text.take length, spans := s.spans.filterMap (·.before? length) }

/-- A line cut to so many cells. -/
def crop (s : Styled Look) (width : Nat) : Styled Look :=
  let text := s.text.crop width
  if text.length < s.text.length then
    { text, spans := s.spans.filterMap (·.before? text.length) }
  else { s with text }

/-! ### Segments -/

/-- A text behind so many characters, cut at some places. -/
def cutAt (isCut : Nat → Bool) (offset : Nat) : Text → List Text
  | [] => []
  | c :: rest =>
    match cutAt isCut (offset + 1) rest with
    | [] => [[c]]
    | piece :: pieces =>
      if isCut (offset + 1) then [c] :: piece :: pieces else (c :: piece) :: pieces

/-- The looks that are laid over a character, the upper ones behind. -/
def looksAt (s : Styled Look) (offset : Nat) : List Look :=
  (s.spans.filter fun span => span.start ≤ offset && offset < span.stop).map (·.look)

/-- Texts behind so many characters, each with the looks that are laid over it. -/
def segmentsFrom (s : Styled Look) (offset : Nat) : List Text → List (Text × List Look)
  | [] => []
  | text :: texts => (text, s.looksAt offset) :: segmentsFrom s (offset + text.length) texts

/-- The parts of a styled text between the places where spans begin or end, each with the looks
that are laid over it. -/
def segments (s : Styled Look) : List (Text × List Look) :=
  let isCut (offset : Nat) : Bool :=
    s.spans.any fun span => span.start = offset || span.stop = offset
  s.segmentsFrom 0 (cutAt isCut 0 s.text)

end Styled

end ControlChannel
