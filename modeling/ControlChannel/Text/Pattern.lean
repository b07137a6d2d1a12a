import ControlChannel.Text.Basic

/-!
# Patterns

A pattern describes texts: characters of a class, other patterns one after the other, one of
two, or one several times.  Parts of it may carry a mark.

* `Pattern` — the patterns, over the marks they use;
* `Pattern.match?` — the first of the ways in which a pattern fits at a place.  **Ways are tried
  in a fixed order**: the first of two patterns before the second, and a repetition as often, or
  as seldom, as it can;
* `Pattern.occurrences` — the marked parts of a text, wherever a pattern fits.
-/

namespace ControlChannel

/-- What texts look like, with marks on parts of them. -/
inductive Pattern (Mark : Type)
  /-- The empty text. -/
  | nothing
  /-- One character of a class. -/
  | one (test : CodePoint → Bool)
  /-- All characters of a class up to the first other one. -/
  | run (test : CodePoint → Bool)
  /-- A place, by the characters before and after it. -/
  | here (test : Option CodePoint → Option CodePoint → Bool)
  /-- A text of one pattern, and then one of another. -/
  | both (first second : Pattern Mark)
  /-- A text of one of two patterns. -/
  | either (first second : Pattern Mark)
  /-- So many texts of one pattern and some more, up to a number if there is one; a greedy
  repetition takes as many as it can. -/
  | repeated (greedy : Bool) (least : Nat) (more : Option Nat) (body : Pattern Mark)
  /-- A text whose place is noted. -/
  | marked (mark : Mark) (body : Pattern Mark)

namespace Pattern

variable {Mark : Type}

/-! ### Matching -/

/-- A part of a text that carries a mark. -/
structure Part (Mark : Type) where
  mark : Mark
  start : Nat
  stop : Nat

/-- A place in a text, and the parts that were marked on the way to it, last first. -/
structure Place (Mark : Type) where
  before : Option CodePoint
  rest : Text
  offset : Nat
  parts : List (Part Mark) := []

/-- The place behind all characters of a class, where so many characters come before a text. -/
def Place.skip (test : CodePoint → Bool) (parts : List (Part Mark)) (before : Option CodePoint)
    (offset : Nat) : Text → Place Mark
  | [] => { before, rest := [], offset, parts }
  | c :: rest =>
    if test c then skip test parts (some c) (offset + 1) rest
    else { before, rest := c :: rest, offset, parts }

/-- What is done at the place behind a pattern. -/
abbrev Next (Mark : Type) := Place Mark → Option (Place Mark)

/-- Goes on behind a pattern that fits so many times. -/
def exactly (body : Next Mark → Next Mark) (next : Next Mark) : Nat → Next Mark
  | 0 => next
  | count + 1 => body (exactly body next count)

/-- Goes on behind a pattern that fits at most so many times: greedily from the most, else from
the least. -/
def upTo (greedy : Bool) (body : Next Mark → Next Mark) (next : Next Mark) : Nat → Next Mark
  | 0, place => next place
  | count + 1, place =>
    if greedy then
      match body (upTo greedy body next count) place with
      | some found => some found
      | none => next place
    else
      match next place with
      | some found => some found
      | none => body (upTo greedy body next count) place

/-- Goes on behind a pattern, in the first of the ways in which it fits that leads anywhere.
No repetition without a bound goes on for more than `limit` times. -/
def follow (limit : Nat) : Pattern Mark → Next Mark → Next Mark
  | nothing, next, place => next place
  | one test, next, place =>
    match place.rest with
    | [] => none
    | c :: rest =>
      if test c then next { place with before := some c, rest, offset := place.offset + 1 }
      else none
  | run test, next, place => next (.skip test place.parts place.before place.offset place.rest)
  | here test, next, place =>
    if test place.before place.rest.head? then next place else none
  | both first second, next, place =>
    follow limit first (fun place => follow limit second next place) place
  | either first second, next, place =>
    match follow limit first next place with
    | some found => some found
    | none => follow limit second next place
  | repeated greedy least more body, next, place =>
    exactly (fun next place => follow limit body next place)
      (upTo greedy (fun next place => follow limit body next place) next (more.getD limit))
      least place
  | marked mark body, next, place =>
    follow limit body
      (fun after => next { after with parts := ⟨mark, place.offset, after.offset⟩ :: after.parts })
      place

/-- The place behind a pattern, if it fits. -/
def match? (limit : Nat) (p : Pattern Mark) (place : Place Mark) : Option (Place Mark) :=
  p.follow limit some place

/-- The marked parts of a text behind a place, wherever a pattern fits after the first `skipped`
characters.  What one fit covers is not looked at for another. -/
def occurrencesFrom (limit : Nat) (p : Pattern Mark) (before : Option CodePoint) (offset : Nat)
    (skipped : Nat) : Text → List (Part Mark)
  | [] => []
  | c :: rest =>
    if 0 < skipped then occurrencesFrom limit p (some c) (offset + 1) (skipped - 1) rest
    else
      match p.match? limit { before, rest := c :: rest, offset } with
      | none => occurrencesFrom limit p (some c) (offset + 1) 0 rest
      | some found =>
        found.parts.reverse
          ++ occurrencesFrom limit p (some c) (offset + 1) (found.offset - offset - 1) rest

/-- The marked parts of a text that are not empty, wherever a pattern fits. -/
def occurrences (p : Pattern Mark) (text : Text) : List (Part Mark) :=
  (occurrencesFrom text.length p none 0 0 text).filter fun part => part.start < part.stop

/-! ### Ways to write patterns -/

/-- One certain character. -/
def character (c : CodePoint) : Pattern Mark := one (· = c)

/-- Texts one after the other. -/
def sequence : List (Pattern Mark) → Pattern Mark
  | [] => nothing
  | [last] => last
  | first :: others => both first (sequence others)

/-- A certain text. -/
def literal (text : Text) : Pattern Mark := sequence (text.map character)

/-- A text of the first of some patterns that fits. -/
def anyOf : List (Pattern Mark) → Pattern Mark
  | [] => one fun _ => false
  | [last] => last
  | first :: others => either first (anyOf others)

/-- A text that may be left out. -/
def optional (body : Pattern Mark) : Pattern Mark := repeated true 0 (some 1) body

/-- As many texts as there are. -/
def many (body : Pattern Mark) : Pattern Mark := repeated true 0 none body

/-- As many texts as there are, at least one. -/
def atLeastOne (body : Pattern Mark) : Pattern Mark := repeated true 1 none body

/-- As few texts as it takes. -/
def few (body : Pattern Mark) : Pattern Mark := repeated false 0 none body

/-- As many texts as there are within two bounds. -/
def between (least most : Nat) (body : Pattern Mark) : Pattern Mark :=
  repeated true least (some (most - least)) body

/-- So many texts. -/
def times (count : Nat) (body : Pattern Mark) : Pattern Mark := between count count body

/-- A place behind no character of a class. -/
def notBehind (test : CodePoint → Bool) : Pattern Mark := here fun before _ => ! before.any test

end Pattern

end ControlChannel
