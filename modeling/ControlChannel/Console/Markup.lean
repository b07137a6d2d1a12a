import ControlChannel.Console.Emoji
import ControlChannel.Console.Style
import ControlChannel.Console.Styled

/-!
# Console markup

Text for the console may hold tags in brackets, which switch a style on or off and are not shown
themselves.

* `Markup.escape` — a text in which nothing is taken for a tag;
* `Markup.pieces` — a text cut into plain parts and tags.  **A backslash in front of a tag makes
  it plain**, and two backslashes there stand for one;
* `Markup.read` — what is shown, where a closing tag must have something to close.
-/

namespace ControlChannel

namespace Markup

/-- Where a tag begins. -/
def opening : CodePoint := '['

/-- Where a tag ends. -/
def closing : CodePoint := ']'

/-- What makes a following tag plain. -/
def backslash : CodePoint := '\\'

/-- What marks a tag that switches a style off. -/
def slash : CodePoint := '/'

/-- Whether the body of a tag may begin with this. -/
def startsBody (c : CodePoint) : Bool :=
  (0x61 ≤ c.val && c.val ≤ 0x7A) || c = '#' || c = slash || c = '@'

/-- The body of the tag that begins in front of a text: up to the first closing bracket, with no
opening one before it. -/
def body? (text : Text) : Option Text :=
  match text with
  | [] => none
  | c :: rest =>
    let body := rest.takeWhile fun c => c ≠ opening && c ≠ closing
    if startsBody c && rest[body.length]? = some closing then some (c :: body) else none

/-! ### Escaping -/

/-- Escapes a text that comes after so many backslashes. -/
def escapeAfter (backslashes : Nat) : Text → Text
  | [] => []
  | c :: rest =>
    if c = opening && (body? rest).isSome then
      List.replicate (backslashes + 1) backslash ++ c :: escapeAfter 0 rest
    else c :: escapeAfter (if c = backslash then backslashes + 1 else 0) rest

/-- A text in which nothing is taken for a tag, nor a last backslash for the escape of what is
written after it. -/
def escape (text : Text) : Text :=
  let escaped := escapeAfter 0 text
  match escaped.reverse with
  | last :: before =>
    if last = backslash && before.head? ≠ some backslash then escaped ++ [backslash] else escaped
  | [] => escaped

/-! ### Reading -/

/-- A part of a text with markup. -/
inductive Piece
  | plain (text : Text)
  /-- A tag, with the place of its opening bracket. -/
  | tag (position : Nat) (body : Text)
  deriving DecidableEq

/-- A plain part, unless it is empty. -/
def plainPiece (text : Text) : List Piece := if text.isEmpty then [] else [.plain text]

/-- The pieces of a text.  `done` is the plain part before it, last first, up to the backslashes
that are counted; `position` is the place of the text. -/
def piecesFrom (position : Nat) (done : Text) (backslashes : Nat) (text : Text) : List Piece :=
  match text with
  | [] => plainPiece (done.reverse ++ List.replicate backslashes backslash)
  | c :: rest =>
    if c = backslash then piecesFrom (position + 1) done (backslashes + 1) rest
    else
      match if c = opening then body? rest else none with
      | some body =>
        let shown := opening :: body ++ [closing]
        plainPiece done.reverse ++ plainPiece (List.replicate (backslashes / 2) backslash)
          ++ [if backslashes % 2 = 1 then .plain shown else .tag position body]
          ++ piecesFrom (position + body.length + 2) [] 0 (rest.drop (body.length + 1))
      | none =>
        piecesFrom (position + 1) (c :: List.replicate backslashes backslash ++ done) 0 rest
termination_by text.length
decreasing_by all_goals (simp only [List.length_cons, List.length_drop]; omega)

/-- A text cut into plain parts and tags. -/
def pieces (text : Text) : List Piece := piecesFrom 0 [] 0 text

/-- A plain part without the backslashes in front of its brackets. -/
def unbracketed : Text → Text
  | [] => []
  | [c] => [c]
  | c :: d :: rest =>
    if c = backslash && d = opening then d :: unbracketed rest else c :: unbracketed (d :: rest)

/-- The controls that no console shows: bell, backspace, and the breaks but the line feed. -/
def isUnshown (c : CodePoint) : Bool :=
  c.val = 7 || c.val = 8 || c.val = 11 || c.val = 12 || c.val = 13

/-- What is shown of a plain part: its emoji codes are replaced before the controls are taken
out. -/
def shown (text : Text) : Text := (Emoji.replace (unbracketed text)).filter (! isUnshown ·)

/-- Why a text with markup cannot be shown. -/
inductive Fault
  /-- A closing tag names a style that is not on. -/
  | unmatched (body : Text) (position : Nat)
  /-- A closing tag names nothing, and nothing is on. -/
  | nothingOn (position : Nat)
  /-- A part of a colour is no number. -/
  | color (fault : Numeral.Fault)
  deriving DecidableEq

/-- The wording of a markup fault. -/
def Fault.message : Fault → Text
  | unmatched body position =>
    "closing tag '[" ++ body ++ "]' at position " ++ Text.ofNat position
      ++ " doesn't match any open tag"
  | nothingOn position =>
    "closing tag '[/]' at position " ++ Text.ofNat position ++ " has nothing to close"
  | color fault => fault.message

/-- A style that is on: the name that closes it, all words of its tag, and the place where it was
switched on. -/
structure Opened where
  name : Text
  words : Text
  start : Nat
  deriving DecidableEq

/-- What marks a tag that asks for no style. -/
def actionMark : CodePoint := '@'

/-- The span of a style up to a place. -/
def Opened.span (o : Opened) (stop : Nat) : Span Text :=
  { start := o.start, stop, look := if o.name.head? = some actionMark then Style.noStyle else o.words }

/-- A text that is being shown: what is shown so far, the styles that are on, the last one first,
and the spans of those that were switched off, the last one first. -/
structure Shown where
  text : Text := []
  on : List Opened := []
  spans : List (Span Text) := []

namespace Shown

/-- Switches off the first style that a test holds for. -/
def close? (s : Shown) (test : Opened → Bool) : Option Shown :=
  (s.on.find? test).map fun opened =>
    { s with
      on := s.on.eraseP test
      spans := opened.span s.text.length :: s.spans }

/-- What is shown after a tag. -/
def tag (s : Shown) (position : Nat) (body : Text) : Except Fault Shown :=
  let name := body.takeWhile (· ≠ ('=' : CodePoint))
  if name.head? = some slash then
    let name := Text.trim (·.isBlank) (name.drop 1)
    if name.isEmpty then
      match s.close? fun _ => true with
      | some s => .ok s
      | none => .error (.nothingOn position)
    else do
      let style ← (Style.normalize name).mapError .color
      match s.close? (·.name = style) with
      | some s => return s
      | none => throw (.unmatched body position)
  else do
    let style ← (Style.normalize name).mapError .color
    let words : Text :=
      if body.contains '=' then style ++ " " ++ body.drop (name.length + 1) else style
    return { s with on := ⟨style, words, s.text.length⟩ :: s.on }

/-- What is shown after a piece. -/
def piece (s : Shown) : Piece → Except Fault Shown
  | .plain text => .ok { s with text := s.text ++ shown text }
  | .tag position body => s.tag position body

/-- A text as it is shown in the end: styles that are still on reach up to its end, and a span
lies over those that begin before it. -/
def finish (s : Shown) : Styled Text :=
  let spans := s.on.foldl (fun spans o => { o.span s.text.length with look := o.words } :: spans)
    s.spans
  { text := s.text, spans := spans.mergeSort fun a b => decide (a.start ≤ b.start) }

end Shown

/-- A text with markup as it is shown. -/
def read (text : Text) : Except Fault (Styled Text) :=
  ((pieces text).foldlM Shown.piece {}).map Shown.finish

end Markup

end ControlChannel
