import ControlChannel.Console.Markup
import Mathlib.Tactic.SplitIfs

/-!
# Escaped texts

An escaped text holds no tag: whatever stands in it is read as plain.  The reader and the escape
keep one count, of the backslashes that they have just passed; where the escape meets a tag it
doubles them and adds one, so that the reader meets an odd number.

* `Markup.Tagged` — a text that begins with the body of a tag and its closing bracket;
* `Markup.body?_escapeAfter` — escaping neither makes such a beginning nor unmakes one;
* `Markup.piecesFrom_escapeAfter` — the pieces of an escaped text are plain.
-/

namespace ControlChannel

namespace Markup

variable {text body inner rest tail : Text} {k : Nat}

/-! ### Bodies of tags -/

/-- No character of a text is a bracket. -/
def Unbracketed (text : Text) : Prop := ∀ c ∈ text, c ≠ opening ∧ c ≠ closing

/-- A text begins with the body of a tag and its closing bracket, and goes on behind them. -/
def Tagged (text body rest : Text) : Prop :=
  ∃ c inner, startsBody c = true ∧ Unbracketed inner ∧ body = c :: inner ∧
    text = c :: (inner ++ closing :: rest)

theorem tagged_append
    (h : ∃ c inner, body = c :: inner ∧ startsBody c = true ∧
      inner.all (fun d => d ≠ opening && d ≠ closing) = true)
    (rest : Text) : Tagged (body ++ closing :: rest) body rest := by
  obtain ⟨c, inner, rfl, hstarts, hinner⟩ := h
  exact ⟨c, inner, hstarts, fun d hd => by simpa using List.all_eq_true.1 hinner d hd, rfl, rfl⟩

theorem Tagged.drop (h : Tagged text body rest) : text.drop (body.length + 1) = rest := by
  obtain ⟨c, inner, -, -, rfl, rfl⟩ := h
  simp

theorem startsBody_ne {c : CodePoint} (h : startsBody c = true) : c ≠ opening ∧ c ≠ backslash := by
  constructor
  all_goals
    rintro rfl
    revert h
    decide

theorem body?_eq_some_iff : body? text = some body ↔ ∃ rest, Tagged text body rest := by
  let isInner (c : CodePoint) : Bool := c ≠ opening && c ≠ closing
  constructor
  · intro h
    cases text with
    | nil => cases h
    | cons c rest =>
      dsimp only [body?] at h
      split_ifs at h with hbody
      cases h
      obtain ⟨hstarts, hcloses⟩ := Bool.and_eq_true_iff.1 hbody
      have hinner : Unbracketed (rest.takeWhile isInner) := by
        intro d hd
        simpa [isInner] using List.all_eq_true.1 List.all_takeWhile d hd
      have hsplit : rest.takeWhile isInner ++ rest.dropWhile isInner = rest :=
        List.takeWhile_append_dropWhile
      refine ⟨(rest.dropWhile isInner).tail, c, _, hstarts, hinner, rfl, ?_⟩
      change decide (rest[(rest.takeWhile isInner).length]? = some closing) = true at hcloses
      generalize rest.takeWhile isInner = inner at hsplit hcloses ⊢
      generalize rest.dropWhile isInner = behind at hsplit ⊢
      rw [← hsplit, List.getElem?_append_right (Nat.le_refl _), Nat.sub_self] at hcloses
      cases behind with
      | nil => cases hcloses
      | cons d more =>
        obtain rfl : d = closing := by simpa using hcloses
        rw [← hsplit, List.tail_cons]
  · rintro ⟨rest, c, inner, hstarts, hinner, rfl, rfl⟩
    have hbefore : (inner ++ closing :: rest).takeWhile isInner = inner := by
      rw [List.takeWhile_append_of_pos fun d hd => by simpa [isInner] using hinner d hd,
        List.takeWhile_cons_of_neg (by decide), List.append_nil]
    change (if startsBody c &&
        decide ((inner ++ closing :: rest)[((inner ++ closing :: rest).takeWhile isInner).length]?
          = some closing)
      then some (c :: (inner ++ closing :: rest).takeWhile isInner) else none) = some (c :: inner)
    rw [hbefore, hstarts, List.getElem?_append_right (Nat.le_refl _), Nat.sub_self]
    rfl

/-! ### What the escape keeps -/

/-- A text that holds nothing but backslashes, such as the escape appends. -/
def Trailing (tail : Text) : Prop := ∀ c ∈ tail, c = backslash

/-- What stands in front of the first bracket is escaped as it is. -/
theorem escapeAfter_unbracketed (h : Unbracketed inner) (k : Nat) (rest : Text) :
    escapeAfter k (inner ++ closing :: rest) = inner ++ closing :: escapeAfter 0 rest := by
  induction inner generalizing k with
  | nil => rfl
  | cons c inner ih =>
    obtain ⟨⟨hopening, _⟩, hinner⟩ := List.forall_mem_cons.1 h
    rw [List.cons_append, escapeAfter, if_neg (by simp [hopening]), ih hinner]
    rfl

/-- A text whose first bracket opens is none whose first bracket closes. -/
theorem opens_ne_closes {before more : Text} (hbefore : closing ∉ before) (h : Unbracketed inner) :
    before ++ opening :: more ≠ inner ++ closing :: rest := by
  intro hsame
  obtain ⟨between, rfl, hbetween⟩ | ⟨between, rfl, hbetween⟩ := List.append_eq_append_iff.1 hsame
  · cases between with
    | nil => exact absurd (List.cons_eq_cons.1 hbetween).1 (by decide)
    | cons d between =>
      obtain ⟨rfl, -⟩ := List.cons_eq_cons.1 hbetween
      exact (h opening (by simp)).1 rfl
  · cases between with
    | nil => exact absurd (List.cons_eq_cons.1 hbetween).1 (by decide)
    | cons d between =>
      obtain ⟨rfl, -⟩ := List.cons_eq_cons.1 hbetween
      exact hbefore (by simp)

/-- What stands in front of the first bracket of an escaped text stands there in the text. -/
theorem unbracketed_escapeAfter (htail : Trailing tail) (h : Unbracketed inner)
    (hescaped : escapeAfter k text ++ tail = inner ++ closing :: rest) :
    ∃ more, text = inner ++ closing :: more := by
  induction text generalizing k inner with
  | nil =>
    have hclosing : closing ∈ tail := by
      rw [show tail = inner ++ closing :: rest from hescaped]
      simp
    exact absurd (htail closing hclosing) (by decide)
  | cons c text ih =>
    rw [escapeAfter] at hescaped
    by_cases hopening : (c = opening && (body? text).isSome) = true
    · obtain ⟨rfl, -⟩ : c = opening ∧ _ := by simpa using hopening
      rw [if_pos hopening, List.append_assoc] at hescaped
      refine absurd hescaped (opens_ne_closes (fun hmem => ?_) h)
      exact absurd (List.eq_of_mem_replicate hmem) (by decide)
    · rw [if_neg hopening] at hescaped
      cases inner with
      | nil =>
        obtain ⟨rfl, -⟩ := List.cons_eq_cons.1 hescaped
        exact ⟨text, rfl⟩
      | cons d inner =>
        obtain ⟨rfl, hrest⟩ := List.cons_eq_cons.1 hescaped
        obtain ⟨more, rfl⟩ := ih (List.forall_mem_cons.1 h).2 hrest
        exact ⟨more, rfl⟩

/-- What a tag is followed by is escaped behind it. -/
theorem Tagged.escapeAfter (h : Tagged text body rest) (k : Nat) (tail : Text) :
    Tagged (Markup.escapeAfter k text ++ tail) body (Markup.escapeAfter 0 rest ++ tail) := by
  obtain ⟨c, inner, hstarts, hinner, rfl, rfl⟩ := h
  refine ⟨c, inner, hstarts, hinner, rfl, ?_⟩
  rw [Markup.escapeAfter, if_neg (by simp [(startsBody_ne hstarts).1]),
    escapeAfter_unbracketed hinner]
  simp

/-- **Escaping neither makes a tag nor unmakes one** behind an opening bracket. -/
theorem body?_escapeAfter (htail : Trailing tail) (k : Nat) (text : Text) :
    body? (escapeAfter k text ++ tail) = body? text := by
  refine Option.ext fun body => ?_
  rw [body?_eq_some_iff, body?_eq_some_iff]
  constructor
  · rintro ⟨rest, c, inner, hstarts, hinner, rfl, hescaped⟩
    obtain ⟨hopening, hbackslash⟩ := startsBody_ne hstarts
    cases text with
    | nil => exact absurd (htail c (by rw [show tail = _ from hescaped]; simp)) hbackslash
    | cons d text =>
      rw [escapeAfter] at hescaped
      by_cases hescapes : (d = opening && (body? text).isSome) = true
      · rw [if_pos hescapes, List.replicate_succ] at hescaped
        exact absurd (List.cons_eq_cons.1 hescaped).1.symm hbackslash
      · rw [if_neg hescapes] at hescaped
        obtain ⟨rfl, hrest⟩ := List.cons_eq_cons.1 hescaped
        obtain ⟨more, rfl⟩ := unbracketed_escapeAfter htail hinner hrest
        exact ⟨more, d, inner, hstarts, hinner, rfl, rfl⟩
  · rintro ⟨rest, htagged⟩
    exact ⟨_, htagged.escapeAfter k tail⟩

/-! ### Pieces -/

/-- A piece that is shown as it is. -/
def Piece.IsPlain (piece : Piece) : Prop := ∃ text, piece = .plain text

theorem isPlain_of_mem_plainPiece {piece : Piece} (h : piece ∈ plainPiece text) :
    piece.IsPlain := by
  unfold plainPiece at h
  split_ifs at h
  · cases h
  · exact ⟨text, List.mem_singleton.1 h⟩

variable {position : Nat} {done : Text}

/-- Backslashes are counted. -/
theorem piecesFrom_backslashes (count : Nat) :
    piecesFrom position done k (List.replicate count backslash ++ text)
      = piecesFrom (position + count) done (k + count) text := by
  induction count generalizing position k with
  | zero => rfl
  | succ count ih =>
    rw [List.replicate_succ, List.cons_append, piecesFrom, if_pos rfl, ih]
    congr 1 <;> omega

/-- A character that begins nothing is plain. -/
theorem piecesFrom_cons {c : CodePoint} (hbackslash : c ≠ backslash)
    (hopening : c = opening → body? rest = none) :
    piecesFrom position done k (c :: rest)
      = piecesFrom (position + 1) (c :: List.replicate k backslash ++ done) 0 rest := by
  have hnone : (if c = opening then body? rest else none) = none := by
    split_ifs with h
    · exact hopening h
    · rfl
  rw [piecesFrom, if_neg hbackslash, hnone]

/-- A word without backslashes and opening brackets begins nothing. -/
theorem piecesFrom_word {word : Text}
    (h : word.all (fun c => c ≠ backslash && c ≠ opening) = true) :
    piecesFrom position done 0 (word ++ text)
      = piecesFrom (position + word.length) (word.reverse ++ done) 0 text := by
  induction word generalizing position done with
  | nil => rfl
  | cons c word ih =>
    obtain ⟨⟨hbackslash, hopening⟩, hword⟩ :
        (c ≠ backslash ∧ c ≠ opening) ∧
          word.all (fun c => c ≠ backslash && c ≠ opening) = true := by
      simpa only [List.all_cons, Bool.and_eq_true, decide_eq_true_eq] using h
    rw [List.cons_append, piecesFrom_cons hbackslash fun hc => absurd hc hopening, ih hword,
      List.length_cons, List.reverse_cons, List.append_assoc]
    congr 1
    omega

/-- A tag, behind backslashes that make it plain if their number is odd. -/
theorem piecesFrom_tag (h : Tagged text body rest) :
    piecesFrom position done k (opening :: text)
      = plainPiece done.reverse ++ plainPiece (List.replicate (k / 2) backslash)
        ++ [if k % 2 = 1 then .plain (opening :: body ++ [closing]) else .tag position body]
        ++ piecesFrom (position + body.length + 2) [] 0 rest := by
  rw [piecesFrom, if_neg (by decide), if_pos rfl, body?_eq_some_iff.2 ⟨rest, h⟩]
  dsimp only
  rw [h.drop]

/-- **The pieces of an escaped text are plain**, read and escaped behind as many backslashes. -/
theorem piecesFrom_escapeAfter (htail : Trailing tail) (position : Nat) (done : Text) (k : Nat)
    (text : Text) :
    ∀ piece ∈ piecesFrom position done k (escapeAfter k text ++ tail), piece.IsPlain := by
  match text with
  | [] =>
    obtain ⟨count, rfl⟩ : ∃ count, tail = List.replicate count backslash :=
      ⟨tail.length, List.eq_replicate_iff.2 ⟨rfl, htail⟩⟩
    have hread : piecesFrom position done k (List.replicate count backslash ++ [])
        = piecesFrom (position + count) done (k + count) [] := piecesFrom_backslashes count
    rw [List.append_nil] at hread
    rw [show escapeAfter k [] ++ List.replicate count backslash = List.replicate count backslash
      from rfl, hread, piecesFrom]
    exact fun piece hpiece => isPlain_of_mem_plainPiece hpiece
  | c :: rest =>
    rw [escapeAfter]
    by_cases hescapes : (c = opening && (body? rest).isSome) = true
    · obtain ⟨rfl, hsome⟩ : c = opening ∧ (body? rest).isSome = true := by simpa using hescapes
      obtain ⟨body, hbody⟩ := Option.isSome_iff_exists.1 hsome
      obtain ⟨more, htagged⟩ := body?_eq_some_iff.1 hbody
      rw [if_pos hescapes, List.append_assoc, piecesFrom_backslashes, List.cons_append,
        piecesFrom_tag (htagged.escapeAfter 0 tail), if_pos (by omega)]
      intro piece hpiece
      simp only [List.mem_append, List.mem_singleton] at hpiece
      obtain ((hpiece | hpiece) | rfl) | hpiece := hpiece
      · exact isPlain_of_mem_plainPiece hpiece
      · exact isPlain_of_mem_plainPiece hpiece
      · exact ⟨_, rfl⟩
      · exact piecesFrom_escapeAfter htail _ _ 0 more piece hpiece
    · rw [if_neg hescapes, List.cons_append]
      by_cases hbackslash : c = backslash
      · subst hbackslash
        rw [if_pos rfl, piecesFrom, if_pos rfl]
        exact piecesFrom_escapeAfter htail _ _ (k + 1) rest
      · have hnone : c = opening → body? (escapeAfter 0 rest ++ tail) = none := by
          rintro rfl
          rw [body?_escapeAfter htail]
          simpa using hescapes
        rw [if_neg hbackslash, piecesFrom_cons hbackslash hnone]
        exact piecesFrom_escapeAfter htail _ _ 0 rest
termination_by text.length
decreasing_by
  · obtain ⟨d, inner, -, -, -, rfl⟩ := htagged
    simp only [List.length_cons, List.length_append]
    omega
  all_goals exact Nat.lt_succ_self _

/-- An escaped text ends as it is escaped, but for a backslash at most. -/
theorem escape_eq (text : Text) :
    ∃ tail, Trailing tail ∧ escape text = escapeAfter 0 text ++ tail := by
  unfold escape
  dsimp only
  split
  · split_ifs
    · exact ⟨[backslash], by simp [Trailing], rfl⟩
    · exact ⟨[], by simp [Trailing], (List.append_nil _).symm⟩
  · exact ⟨[], by simp [Trailing], (List.append_nil _).symm⟩

/-! ### Reading -/

/-- Plain pieces are shown, and change nothing else. -/
theorem foldlM_plain {pieces : List Piece} (h : ∀ piece ∈ pieces, piece.IsPlain) (s : Shown) :
    ∃ text, pieces.foldlM Shown.piece s = .ok { s with text := s.text ++ text } := by
  induction pieces generalizing s with
  | nil => exact ⟨[], by rw [List.append_nil]; rfl⟩
  | cons piece pieces ih =>
    obtain ⟨⟨plain, rfl⟩, hpieces⟩ := List.forall_mem_cons.1 h
    obtain ⟨text, htext⟩ := ih hpieces { s with text := s.text ++ shown plain }
    refine ⟨shown plain ++ text, ?_⟩
    rw [← List.append_assoc]
    exact htext

end Markup

end ControlChannel
