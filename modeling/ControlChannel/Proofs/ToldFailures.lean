import ControlChannel.Console
import ControlChannel.Proofs.EscapedMarkup
import ControlChannel.Proofs.NamedStyles

/-!
# Failures that are told

A console of the library that runs shows a text at every width, as long as there is a style for every
look in it.  A failure is such a text, whatever its message is: nothing in the message is taken for a
tag.

* `Styled.Within` — **breaking lines brings no new looks in**, with one lemma for each step;
* `Console.layout_ok`, `Console.write_ok` — a text whose looks have styles is written, and nothing
  is written only where there is no width;
* `Console.read_failure` — a failure as it is read: a heading with one style, and a text with none;
* `Console.write_failure`, `Console.tells` — **every failure is told**.
-/

namespace ControlChannel

/-! ### Looks -/

namespace Styled

variable {Look : Type} {P : Look → Prop} {s t : Styled Look}

/-- All looks of a styled text are of one kind. -/
def Within (P : Look → Prop) (s : Styled Look) : Prop := ∀ span ∈ s.spans, P span.look

/-- Spans that are cut or left out keep their looks. -/
theorem within_filterMap {spans : List (Span Look)} (h : ∀ span ∈ spans, P span.look)
    {part? : Span Look → Option (Span Look)}
    (hlook : ∀ span part, part? span = some part → part.look = span.look) :
    ∀ part ∈ spans.filterMap part?, P part.look := by
  intro part hpart
  obtain ⟨span, hspan, hsome⟩ := List.mem_filterMap.1 hpart
  rw [hlook span part hsome]
  exact h span hspan

theorem look_inside? (start stop : Nat) (span part : Span Look)
    (h : span.inside? start stop = some part) : part.look = span.look := by
  unfold Span.inside? at h
  dsimp only at h
  split_ifs at h
  cases h
  rfl

theorem look_before? (stop : Nat) (span part : Span Look) (h : span.before? stop = some part) :
    part.look = span.look := by
  unfold Span.before? at h
  split_ifs at h
  cases h
  rfl

theorem slicesFrom_within {spans : List (Span Look)} (h : ∀ span ∈ spans, P span.look) (gap : Nat)
    (lengths : List Nat) (start : Nat) (text : Text) :
    ∀ part ∈ slicesFrom spans gap start text lengths, part.Within P := by
  induction lengths generalizing start text with
  | nil => exact List.forall_mem_nil _
  | cons length lengths ih =>
    refine List.forall_mem_cons.2 ⟨?_, ih _ _⟩
    exact within_filterMap h (look_inside? start (start + length))

theorem cut_within (h : s.Within P) (gap : Nat) (lengths : List Nat) :
    ∀ part ∈ s.cut gap lengths, part.Within P := by
  unfold cut
  split
  · exact List.forall_mem_singleton.2 h
  · exact List.forall_mem_singleton.2 h
  · exact slicesFrom_within h gap _ 0 s.text

theorem append_within (hs : s.Within P) (ht : t.Within P) : (s.append t).Within P := by
  intro span hspan
  obtain hspan | hspan := List.mem_append.1 hspan
  · exact hs span hspan
  · obtain ⟨before, hbefore, rfl⟩ := List.mem_map.1 hspan
    exact ht before hbefore

theorem blankTab_within (h : s.Within P) (count : Nat) : (s.blankTab count).Within P := by
  intro span hspan
  obtain ⟨before, hbefore, rfl⟩ := List.mem_map.1 hspan
  unfold Span.extend
  split_ifs <;> exact h before hbefore

theorem tabParts_within (h : s.Within P) : ∀ part ∈ s.tabParts, part.Within P := by
  unfold tabParts
  split
  · exact List.forall_mem_nil _
  · exact slicesFrom_within h 0 _ 0 s.text

theorem expandParts_within {parts : List (Styled Look)} (h : ∀ part ∈ parts, part.Within P)
    (column : Nat) : (expandParts column parts).Within P := by
  induction parts generalizing column with
  | nil => exact List.forall_mem_nil _
  | cons part parts ih =>
    obtain ⟨hpart, hparts⟩ := List.forall_mem_cons.1 h
    unfold expandParts
    split_ifs
    · exact append_within (blankTab_within hpart _) (ih hparts _)
    · exact append_within hpart (ih hparts _)

theorem expandTabs_within (h : s.Within P) : s.expandTabs.Within P := by
  unfold expandTabs
  split_ifs
  · exact expandParts_within (tabParts_within h) 0
  · exact h

theorem dropEnd_within (h : s.Within P) (count : Nat) : (s.dropEnd count).Within P := by
  unfold dropEnd
  dsimp only
  split_ifs
  · exact h
  · exact within_filterMap h (look_before? _)

theorem crop_within (h : s.Within P) (width : Nat) : (s.crop width).Within P := by
  unfold crop
  dsimp only
  split_ifs
  · exact within_filterMap h (look_before? _)
  · exact h

/-- **Breaking a line brings no new looks in.** -/
theorem line_within (h : s.Within P) (width : Nat) : ∀ line ∈ Wrap.line width s, line.Within P := by
  intro line hline
  obtain ⟨part, hpart, rfl⟩ := List.mem_map.1 hline
  exact crop_within (dropEnd_within (cut_within (expandTabs_within h) 0 _ part hpart) _) width

theorem cut_ne_nil (s : Styled Look) (gap : Nat) (lengths : List Nat) : s.cut gap lengths ≠ [] := by
  cases lengths with
  | nil => exact List.cons_ne_nil _ _
  | cons length lengths =>
    cases lengths with
    | nil => exact List.cons_ne_nil _ _
    | cons next lengths => exact List.cons_ne_nil _ _

/-- A text has a line to show, even if nothing stands in it. -/
theorem lines_ne_nil (s : Styled Look) (width : Nat) : s.lines.flatMap (Wrap.line width) ≠ [] := by
  intro hnone
  obtain ⟨line, hline⟩ := List.exists_mem_of_ne_nil s.lines (cut_ne_nil s 1 _)
  have hparts := List.flatMap_eq_nil_iff.1 hnone line hline
  exact cut_ne_nil _ 0 _ (List.map_eq_nil_iff.1 hparts)

end Styled

/-! ### Consoles -/

/-- What can be done with each of some can be done with all, and gives nothing only for none. -/
theorem exists_mapM {α β ε : Type} {f : α → Except ε β} {list : List α}
    (h : ∀ a ∈ list, ∃ b, f a = .ok b) :
    ∃ results, list.mapM f = .ok results ∧ (results = [] ↔ list = []) := by
  induction list with
  | nil => exact ⟨[], rfl, iff_of_true rfl rfl⟩
  | cons a list ih =>
    obtain ⟨⟨b, hb⟩, hlist⟩ := List.forall_mem_cons.1 h
    obtain ⟨results, hresults, -⟩ := ih hlist
    refine ⟨b :: results, ?_, iff_of_false nofun nofun⟩
    rw [List.mapM_cons, hb, hresults]
    rfl

/-- A fold whose first step gives a result goes on from there. -/
theorem foldlM_cons_ok {α β ε : Type} {f : β → α → Except ε β} {state next : β} {a : α}
    {list : List α} (h : f state a = .ok next) :
    (a :: list).foldlM f state = list.foldlM f next := by
  rw [List.foldlM_cons, h]
  rfl

namespace Console

/-- **A text whose looks have styles is laid out at every width**, and leaves something to be seen
unless there is no width at all. -/
theorem layout_ok (c : Console) (width : Nat) {s : Styled Text} (h : s.Within Theme.HasStyle) :
    ∃ text, c.layout width s = .ok text ∧ (text = [] ↔ width = 0) := by
  unfold layout
  split_ifs with hwidth
  · exact ⟨[], rfl, iff_of_true rfl hwidth⟩
  · have hlines : ∀ line ∈ s.lines.flatMap (Wrap.line width), ∃ styled,
        (line.mapLooks Theme.style).mapError Fault.style = .ok styled := by
      intro line hline
      obtain ⟨whole, hwhole, hpart⟩ := List.mem_flatMap.1 hline
      have hwithin := Styled.line_within (Styled.cut_within h 1 _ whole hwhole) width line hpart
      have hspans : ∀ span ∈ line.spans, ∃ styled : Span Style,
          (do return { span with look := ← Theme.style span.look }) = Except.ok styled := by
        intro span hspan
        obtain ⟨style, hstyle⟩ := hwithin span hspan
        rw [hstyle]
        exact ⟨_, rfl⟩
      obtain ⟨spans, hspans, -⟩ := exists_mapM hspans
      unfold Styled.mapLooks
      rw [hspans]
      exact ⟨_, rfl⟩
    obtain ⟨lines, hlines, hsome⟩ := exists_mapM hlines
    rw [hlines]
    refine ⟨lines.flatMap (c.writeLine width), rfl, iff_of_false (fun hnothing => ?_) hwidth⟩
    have hwritten : lines ≠ [] := mt hsome.1 (s.lines_ne_nil width)
    obtain ⟨line, hline⟩ := List.exists_mem_of_ne_nil lines hwritten
    have hempty := List.flatMap_eq_nil_iff.1 hnothing line hline
    simp [writeLine] at hempty

/-- A console has a width wherever one can be opened. -/
theorem widthIn_ok (c : Console) {e : Environment} {opened : Console}
    (opens : ofEnvironment e = .ok opened) : ∃ width, c.widthIn e = .ok width := by
  unfold widthIn
  split
  · exact ⟨_, rfl⟩
  · split_ifs
    · exact ⟨_, rfl⟩
    · rw [opens]
      exact ⟨_, rfl⟩

/-- **A text whose markup is read is written** where there is a width, if its tags have styles. -/
theorem write_ok (c : Console) {e : Environment} {width : Nat} (hwidth : c.widthIn e = .ok width)
    {text : Text} {shown : Styled Text} (hread : Markup.read text = .ok shown)
    (hlooks : shown.Within Theme.HasStyle) :
    ∃ told, c.write e text = .ok told ∧ (told = [] ↔ width = 0) := by
  have hwithin : Styled.Within Theme.HasStyle
      { shown with spans := Highlight.spans shown.text ++ shown.spans } :=
    List.forall_mem_append.2 ⟨fun _ => Highlight.hasStyle_of_mem_spans, hlooks⟩
  obtain ⟨told, htold, hempty⟩ := c.layout_ok width hwithin
  refine ⟨told, ?_, hempty⟩
  unfold write
  rw [hread, hwidth]
  exact htold

/-- The heading of a failure is read piece by piece: its style is switched on, and off again. -/
theorem heading_pieces :
    Markup.Shown.piece {} (.tag 0 "bold red") = .ok { on := [⟨"bold red", "bold red", 0⟩] } ∧
      Markup.Shown.piece { on := [⟨"bold red", "bold red", 0⟩] } (.plain "Error:") =
        .ok { text := "Error:", on := [⟨"bold red", "bold red", 0⟩] } ∧
      Markup.Shown.piece { text := "Error:", on := [⟨"bold red", "bold red", 0⟩] }
          (.tag 16 "/bold red") =
        .ok { text := "Error:", spans := [⟨0, 6, "bold red"⟩] } := by
  refine ⟨?begins, ?shows, ?ends⟩
  case begins =>
    have hname : ("bold red" : Text).takeWhile (· ≠ ('=' : CodePoint)) = ("bold red" : Text) := by
      decide +kernel
    rw [Markup.Shown.piece, Markup.Shown.tag, hname, if_neg (by decide), Style.read?_boldRed.2]
    rfl
  case shows =>
    have hshown : Markup.shown "Error:" = ("Error:" : Text) := by decide +kernel
    rw [Markup.Shown.piece, hshown]
    rfl
  case ends =>
    have hname : ("/bold red" : Text).takeWhile (· ≠ ('=' : CodePoint)) = ("/bold red" : Text) := by
      decide +kernel
    have htrimmed : Text.trim (·.isBlank) (("/bold red" : Text).drop 1) = ("bold red" : Text) := by
      decide +kernel
    rw [Markup.Shown.piece, Markup.Shown.tag, hname, if_pos (by decide), htrimmed]
    dsimp only
    rw [if_neg (by decide), Style.read?_boldRed.2]
    rfl

/-- The pieces of a failure: those of its heading, and plain ones. -/
theorem pieces_failure (message : Text) :
    ∃ pieces, (∀ piece ∈ pieces, piece.IsPlain) ∧
      Markup.pieces (ConsoleLibrary.failure message) =
        .tag 0 "bold red" :: .plain "Error:" :: .tag 16 "/bold red" :: pieces := by
  obtain ⟨tail, htail, hescape⟩ := Markup.escape_eq message
  let escaped : Text := Markup.escapeAfter 0 message ++ tail
  have hfailure : ConsoleLibrary.failure message =
      Markup.opening :: ("bold red" ++ Markup.closing :: ("Error:" ++
        Markup.opening :: ("/bold red" ++ Markup.closing :: ([0x20] ++ escaped)))) := by
    have hheading : ("[bold red]Error:[/bold red] " : Text) =
        Markup.opening :: ("bold red" ++ Markup.closing :: ("Error:" ++
          Markup.opening :: ("/bold red" ++ [Markup.closing, 0x20]))) := by decide +kernel
    show "[bold red]Error:[/bold red] " ++ Markup.escape message = _
    rw [hescape, hheading]
    simp [escaped]
  have hbegins (rest : Text) :
      Markup.Tagged ("bold red" ++ Markup.closing :: rest) "bold red" rest :=
    Markup.tagged_append ⟨(0x62 : CodePoint), "old red", by decide +kernel⟩ rest
  have hends (rest : Text) :
      Markup.Tagged ("/bold red" ++ Markup.closing :: rest) "/bold red" rest :=
    Markup.tagged_append ⟨(0x2F : CodePoint), "bold red", by decide +kernel⟩ rest
  have hlengths : ("bold red" : Text).length = 8 ∧ ("Error:" : Text).length = 6 ∧
      ("/bold red" : Text).length = 9 := by decide +kernel
  have hshown : Markup.plainPiece "Error:" = [.plain "Error:"] := by decide +kernel
  refine ⟨_, Markup.piecesFrom_escapeAfter htail 28 [0x20] 0 message, ?_⟩
  rw [hfailure, Markup.pieces, Markup.piecesFrom_tag (hbegins _),
    Markup.piecesFrom_word (by decide +kernel), Markup.piecesFrom_tag (hends _),
    Markup.piecesFrom_word (by decide +kernel)]
  obtain ⟨hbold, herror, hclose⟩ := hlengths
  rw [List.append_nil, List.reverse_reverse, hshown, hbold, herror, hclose]
  rfl

/-- **A failure as it is read**: its heading has a style, and its message has none. -/
theorem read_failure (message : Text) :
    ∃ shown, Markup.read (ConsoleLibrary.failure message) =
      .ok { text := "Error:" ++ shown, spans := [⟨0, 6, "bold red"⟩] } := by
  obtain ⟨pieces, hplain, hpieces⟩ := pieces_failure message
  obtain ⟨shown, hshown⟩ :=
    Markup.foldlM_plain hplain { text := "Error:", spans := [⟨0, 6, "bold red"⟩] }
  obtain ⟨hbegins, hshows, hends⟩ := heading_pieces
  refine ⟨shown, ?_⟩
  rw [Markup.read, hpieces, foldlM_cons_ok hbegins, foldlM_cons_ok hshows, foldlM_cons_ok hends,
    hshown]
  simp [Except.map, Markup.Shown.finish]

/-- **Every failure is told where there is a width**, and is to be seen unless the width is none. -/
theorem write_failure (c : Console) {e : Environment} {width : Nat}
    (hwidth : c.widthIn e = .ok width) (message : Text) :
    ∃ told, library.written c e (ConsoleLibrary.failure message) = .ok told ∧
      (told = [] ↔ width = 0) := by
  have hheading : Theme.HasStyle "bold red" := by
    obtain ⟨⟨style?, hstyle⟩, _⟩ := Style.read?_boldRed
    refine ⟨style?.getD {}, ?_⟩
    rw [Theme.style_of_blank (by decide), hstyle]
    rfl
  obtain ⟨shown, hread⟩ := read_failure message
  obtain ⟨told, htold, hempty⟩ := c.write_ok hwidth hread (List.forall_mem_singleton.2 hheading)
  exact ⟨told, congrArg (Except.mapError Fault.raised) htold, hempty⟩

/-- **A console tells every failure where one opens.** -/
theorem tells (c : Console) {e : Environment} {opened : Console}
    (opens : ofEnvironment e = .ok opened) : ConsoleLibrary.Tells c e := by
  intro message
  obtain ⟨width, hwidth⟩ := c.widthIn_ok opens
  obtain ⟨told, htold, -⟩ := c.write_failure hwidth message
  exact ⟨told, htold⟩

end Console

end ControlChannel
