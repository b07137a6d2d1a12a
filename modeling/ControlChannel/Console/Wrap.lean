import ControlChannel.Console.Styled
import ControlChannel.Text.Blank

/-!
# Lines that fit a console

A line is broken between its words where the next word would not fit any more; a word that is
wider than the console is broken wherever it has to be.

* `Wrap.words` — a line cut into words, each with the blanks after it;
* `Wrap.chop` — a text cut into pieces of at most a width;
* `Wrap.breakText` — a text broken into lines;
* `Wrap.line` — a styled line as lines of at most a width.
-/

namespace ControlChannel

namespace Wrap

/-- A line cut into words, each with the blanks after it, and the first one with those before
it.  A line of blanks has no words. -/
def words (text : Text) : List Text :=
  let before := text.takeWhile (·.isBlank)
  let rest := text.dropWhile (·.isBlank)
  let word := rest.takeWhile (! ·.isBlank)
  let after := rest.dropWhile (! ·.isBlank)
  if word = [] then []
  else
    (before ++ word ++ after.takeWhile (·.isBlank)) :: words (after.dropWhile (·.isBlank))
termination_by text.length
decreasing_by
  have total : before.length + rest.length = text.length := by
    rw [← List.length_append, List.takeWhile_append_dropWhile]
  have partition : word.length + after.length = rest.length := by
    rw [← List.length_append, List.takeWhile_append_dropWhile]
  have some : 0 < word.length := List.length_pos_iff.mpr (by assumption)
  have shorter := (List.dropWhile_sublist (l := after) fun c : CodePoint => c.isBlank).length_le
  exact Nat.lt_of_le_of_lt shorter (by omega)

/-- Puts graphemes into pieces of at most `width` cells; `piece` is the last piece so far, last
character first, and `used` its cells. -/
def chopFrom (width : Nat) (piece : Text) (used : Nat) : List Grapheme → List Text
  | [] => [piece.reverse]
  | g :: rest =>
    if width < used + g.cells then piece.reverse :: chopFrom width g.text.reverse g.cells rest
    else chopFrom width (g.text.reverse ++ piece) (used + g.cells) rest

/-- Cuts a text into pieces of at most `width` cells. -/
def chop (width : Nat) (text : Text) : List Text := chopFrom width [] 0 text.graphemes

/-- Lines under way: those that are over, last first, the one that grows, and the cells that
count of it. -/
structure Lines where
  done : List Text := []
  current : Text := []
  used : Nat := 0

namespace Lines

/-- Whether nothing was written yet. -/
def isFresh (l : Lines) : Bool := l.done.isEmpty && l.current.isEmpty

/-- Ends the line that grows, unless nothing was written yet, and begins one with a piece. -/
def startLine (l : Lines) (piece : Text) : Lines :=
  if l.isFresh then { l with current := piece, used := piece.cells }
  else { done := l.current :: l.done, current := piece, used := piece.cells }

/-- Adds a word: to the line that grows if it fits there, piece by piece if it fits no line,
else to a line of its own. -/
def add (width : Nat) (l : Lines) (word : Text) : Lines :=
  let needed := (Text.dropEndWhile (·.isBlank) word).cells
  if l.used + needed ≤ width then
    { l with current := l.current ++ word, used := l.used + word.cells }
  else if width < needed then (chop width word).foldl startLine l
  else if l.used ≠ 0 then l.startLine word
  else { l with current := l.current ++ word }

/-- The lines in order. -/
def toList (l : Lines) : List Text := (l.current :: l.done).reverse

end Lines

/-- A text broken into lines of at most `width` cells, with the blanks at their ends. -/
def breakText (width : Nat) (text : Text) : List Text :=
  match words text with
  | [] => [text]
  | words => (words.foldl (Lines.add width) {}).toList

/-- How many of the blanks at the end of a line make it longer than `width` characters. -/
def excess (width : Nat) (text : Text) : Nat :=
  min (text.length - width) (text.reverse.takeWhile (·.isBlank)).length

/-- A line as lines of at most `width` cells. -/
def line {Look : Type} (width : Nat) (s : Styled Look) : List (Styled Look) :=
  let s := s.expandTabs
  let lines := s.cut 0 ((breakText width s.text).map (·.length))
  lines.map fun l => (l.dropEnd (excess width l.text)).crop width

end Wrap

end ControlChannel
