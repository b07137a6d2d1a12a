import ControlChannel.Console.Highlight
import ControlChannel.Console.Theme
import ControlChannel.Proofs.SplitTexts
import Mathlib.Tactic.SplitIfs

/-!
# Styles that can be read

The name of a style is looked up, or read as words.  Reading fails for one thing only, a word that
looks like three numbers; so there is a style for the heading of failures, and one for all that
stands out in a text.

* `Text.not_mem_of_mem_words` — a word holds no blank, so a tag with one is no name of a style;
* `Color.read?_ok`, `Style.extend?_ok` — colours and words that are read, whether or not there is
  one;
* `Pattern.mark_of_mem_occurrences` — **the parts that a pattern marks have marks of its own**;
* `Highlight.hasStyle_of_mem_spans` — what stands out has a style.
-/

namespace ControlChannel

/-! ### Words and styles -/

theorem Text.not_mem_of_mem_words {text word : Text} (h : word ∈ words text) :
    (0x20 : CodePoint) ∉ word :=
  not_mem_of_mem_splitOn (List.mem_filter.1 h).1

/-- **A tag with a blank is no name of a style**, so it writes one. -/
theorem Theme.style_of_blank {tag : Text} (h : (0x20 : CodePoint) ∈ tag) :
    style tag = (Style.read? tag).map (·.getD {}) := by
  have hnone : entries.lookup tag = none := by
    rw [List.lookup_eq_none_iff]
    intro entry hentry
    obtain ⟨line, _, hline⟩ := List.mem_flatMap.1 hentry
    have hname : (0x20 : CodePoint) ∉ entry.1 := by
      split at hline
      · cases hline
      · rename_i name words hwords
        rw [List.mem_singleton.1 hline]
        exact Text.not_mem_of_mem_words (hwords ▸ List.mem_cons_self)
    rw [bne_iff_ne]
    rintro rfl
    exact hname h
  rw [style, hnone]
  rfl

/-- A word that does not look like three numbers is read, as a colour of its name or as none. -/
theorem Color.read?_ok (word : Text) (h : between? "rgb(" ")" word.toLower = none) :
    ∃ color?, read? word = .ok color? ∧ ∀ color ∈ color?, color.name = word.toLower := by
  have hmixed : mixedShade? word.toLower = .ok none := by
    rw [mixedShade?, h]
  unfold read?
  dsimp only
  split
  · exact ⟨_, rfl, fun color hcolor => by cases hcolor; rfl⟩
  · rw [hmixed]
    exact ⟨none, rfl, nofun⟩

namespace Style

/-- What failures begin with is told in a style that is read, and that is its own normal form. -/
theorem read?_boldRed :
    (∃ style?, read? "bold red" = .ok style?) ∧ normalize "bold red" = .ok "bold red" := by
  obtain ⟨color?, hcolor, hname⟩ := Color.read?_ok "red" (by decide +kernel)
  have hwords : Text.words "bold red" = [("bold" : Text), ("red" : Text)] := by decide +kernel
  have hbold : (("bold" : Text).toLower = "bold" ∧ ("bold" : Text) ≠ "on" ∧
      ("bold" : Text) ≠ "not" ∧ ("bold" : Text) ≠ "link") ∧
      attributeNamed? "bold" = some ("bold" : Text) := by decide +kernel
  have hred : attributeNamed? (("red" : Text).toLower) = none ∧
      introducers.contains (("red" : Text).toLower) = false := by decide +kernel
  have hread : read? "bold red" =
      .ok (color?.map fun color => { switch {} "bold" true with color := some color }) := by
    unfold read?
    rw [hwords]
    rw [if_neg (by decide +kernel)]
    simp only [extend?, hbold, hred, hcolor, if_false, Bool.false_eq_true]
    rfl
  refine ⟨⟨_, hread⟩, ?_⟩
  rw [normalize, hread]
  cases color? with
  | none =>
    have htrimmed : (Text.trim (·.isBlank) "bold red").toLower = ("bold red" : Text) := by
      decide +kernel
    exact congrArg Except.ok htrimmed
  | some color =>
    have hcolored : color.name = "red" := hname color rfl
    obtain ⟨name, shade⟩ := color
    obtain rfl : name = "red" := hcolored
    rfl

end Style

/-- Words none of which looks like three numbers are read as a style, or write none. -/
theorem Style.extend?_ok {words : List Text}
    (h : ∀ word ∈ words, Color.between? "rgb(" ")" word.toLower = none) (s : Style) :
    ∃ style?, s.extend? words = .ok style? := by
  match words with
  | [] => exact ⟨_, rfl⟩
  | [word] =>
    obtain ⟨color?, hcolor, -⟩ := Color.read?_ok word (h word (by simp))
    rw [extend?, hcolor]
    split
    · exact ⟨_, rfl⟩
    · split
      · exact ⟨_, rfl⟩
      · exact ⟨_, rfl⟩
  | word :: next :: words =>
    obtain ⟨hword, hnext, hwords⟩ : _ ∧ _ ∧ _ := by
      simpa only [List.forall_mem_cons] using h
    obtain ⟨color?, hcolor, -⟩ := Color.read?_ok word hword
    obtain ⟨behind?, hbehind, -⟩ := Color.read?_ok next hnext
    have hlater : ∀ s : Style, ∃ style?, s.extend? words = .ok style? := extend?_ok hwords
    have hrest : ∀ s : Style, ∃ style?, s.extend? (next :: words) = .ok style? :=
      extend?_ok (List.forall_mem_cons.2 ⟨hnext, hwords⟩)
    rw [extend?, hcolor, hbehind]
    dsimp only [bind, Except.bind]
    split_ifs
    · cases behind? with
      | none => exact ⟨_, rfl⟩
      | some color => exact hlater _
    · cases attributeNamed? next with
      | none => exact ⟨_, rfl⟩
      | some name => exact hlater _
    · exact hlater _
    · cases attributeNamed? word.toLower with
      | some name => exact hrest _
      | none =>
        cases color? with
        | none => exact ⟨_, rfl⟩
        | some color => exact hrest _

/-! ### What stands out -/

namespace Pattern

variable {Mark : Type} {P : Mark → Prop}

/-- The marks of the parts that a pattern can leave. -/
def marks : Pattern Mark → List Mark
  | nothing => []
  | one _ => []
  | run _ => []
  | here _ => []
  | both first second => first.marks ++ second.marks
  | either first second => first.marks ++ second.marks
  | repeated _ _ _ body => body.marks
  | marked mark body => mark :: body.marks

/-- What is done at a place adds no parts but those of some marks. -/
def Next.Keeps (P : Mark → Prop) (next : Next Mark) : Prop :=
  ∀ place found, (∀ part ∈ place.parts, P part.mark) → next place = some found →
    ∀ part ∈ found.parts, P part.mark

theorem Place.parts_skip (test : CodePoint → Bool) (parts : List (Part Mark))
    (before : Option CodePoint) (offset : Nat) (text : Text) :
    (skip test parts before offset text).parts = parts := by
  induction text generalizing before offset with
  | nil => rfl
  | cons c text ih =>
    rw [skip]
    split
    · exact ih _ _
    · rfl

theorem exactly_keeps {body : Next Mark → Next Mark} {next : Next Mark}
    (hbody : ∀ next : Next Mark, next.Keeps P → (body next).Keeps P) (hnext : next.Keeps P)
    (count : Nat) : Next.Keeps P (exactly body next count) := by
  induction count with
  | zero => exact hnext
  | succ count ih => exact hbody _ ih

theorem upTo_keeps {body : Next Mark → Next Mark} {next : Next Mark} (greedy : Bool)
    (hbody : ∀ next : Next Mark, next.Keeps P → (body next).Keeps P) (hnext : next.Keeps P)
    (count : Nat) : Next.Keeps P (upTo greedy body next count) := by
  induction count with
  | zero => exact hnext
  | succ count ih =>
    intro place found hplace hfound
    rw [upTo] at hfound
    split at hfound
    · split at hfound
      · cases hfound
        exact hbody _ ih place _ hplace ‹_›
      · exact hnext place found hplace hfound
    · split at hfound
      · cases hfound
        exact hnext place _ hplace ‹_›
      · exact hbody _ ih place found hplace hfound

/-- **What follows a pattern finds no parts but those of its marks.** -/
theorem follow_keeps (limit : Nat) (p : Pattern Mark) (hmarks : ∀ mark ∈ p.marks, P mark)
    {next : Next Mark} (hnext : next.Keeps P) : Next.Keeps P (follow limit p next) := by
  induction p generalizing next with
  | nothing => exact hnext
  | one test =>
    intro place found hplace hfound
    rw [follow] at hfound
    split at hfound
    · cases hfound
    · split at hfound
      · refine hnext _ found ?_ hfound
        exact hplace
      · cases hfound
  | run test =>
    intro place found hplace hfound
    refine hnext _ found ?_ hfound
    rwa [Place.parts_skip]
  | here test =>
    intro place found hplace hfound
    rw [follow] at hfound
    split at hfound
    · exact hnext _ found hplace hfound
    · cases hfound
  | both first second hfirst hsecond =>
    obtain ⟨hmarks, hmarks'⟩ := List.forall_mem_append.1 hmarks
    exact hfirst hmarks (hsecond hmarks' hnext)
  | either first second hfirst hsecond =>
    obtain ⟨hmarks, hmarks'⟩ := List.forall_mem_append.1 hmarks
    intro place found hplace hfound
    rw [follow] at hfound
    split at hfound
    · cases hfound
      exact hfirst hmarks hnext place _ hplace ‹_›
    · exact hsecond hmarks' hnext place found hplace hfound
  | repeated greedy least more body hbody =>
    have hstep : ∀ next : Next Mark, next.Keeps P → Next.Keeps P (follow limit body next) :=
      fun next hnext => hbody hmarks hnext
    exact exactly_keeps hstep (upTo_keeps greedy hstep hnext _) least
  | marked mark body hbody =>
    obtain ⟨hmark, hmarks⟩ := List.forall_mem_cons.1 hmarks
    intro place found hplace hfound
    refine hbody hmarks (fun after found hafter => hnext _ found ?_) place found hplace hfound
    exact List.forall_mem_cons.2 ⟨hmark, hafter⟩

theorem mark_of_mem_occurrencesFrom {limit offset skipped : Nat} {p : Pattern Mark}
    {before : Option CodePoint} {text : Text} :
    ∀ part ∈ occurrencesFrom limit p before offset skipped text, part.mark ∈ p.marks := by
  have hsome : Next.Keeps (· ∈ p.marks) (some : Next Mark) :=
    fun place found hplace hsame => Option.some.inj hsame ▸ hplace
  induction text generalizing before offset skipped with
  | nil => exact List.forall_mem_nil _
  | cons c rest ih =>
    rw [occurrencesFrom]
    split
    · exact ih
    · split
      · exact ih
      · rename_i found hfound
        have hparts :=
          follow_keeps limit p (fun _ => id) hsome _ found (List.forall_mem_nil _) hfound
        have hshown : ∀ part ∈ found.parts.reverse, part.mark ∈ p.marks :=
          fun part hpart => hparts part (List.mem_reverse.1 hpart)
        exact List.forall_mem_append.2 ⟨hshown, ih⟩

/-- **A part of a text that a pattern marks has one of its marks.** -/
theorem mark_of_mem_occurrences {p : Pattern Mark} {text : Text} {part : Part Mark}
    (h : part ∈ p.occurrences text) : part.mark ∈ p.marks :=
  mark_of_mem_occurrencesFrom part (List.mem_filter.1 h).1

end Pattern

namespace Theme

/-- A look that has a style. -/
def HasStyle (look : Text) : Prop := ∃ found, style look = .ok found

theorem hasStyle_of_words {look : Text}
    (h : ∀ word ∈ Text.words ((entries.lookup look).getD look),
      Color.between? "rgb(" ")" word.toLower = none) : HasStyle look := by
  obtain ⟨style?, hstyle⟩ := Style.extend?_ok h {}
  unfold HasStyle style Style.read?
  dsimp only
  split_ifs
  · exact ⟨_, rfl⟩
  · rw [hstyle]
    exact ⟨_, rfl⟩

set_option maxRecDepth 20000 in
/-- The styles with names that begin with `repr` are written without any numbers. -/
theorem words_of_repr : ∀ entry ∈ entries, entry.1.take 4 = "repr" →
    ∀ word ∈ Text.words entry.2, Color.between? "rgb(" ")" word.toLower = none := by
  have hletters : table.toList = _ := String.toList_ofList
  have htable : Text.ofString table = _ := congrArg (List.map CodePoint.ofChar) hletters
  rw [entries, htable]
  decide +kernel

end Theme

/-- The marks of what stands out begin with `repr`. -/
theorem Highlight.marks_repr : ∀ shape ∈ patterns, ∀ mark ∈ shape.marks,
    mark.take 4 = "repr" ∧
      ∀ word ∈ Text.words mark, Color.between? "rgb(" ")" word.toLower = none := by
  decide +kernel

/-- **What stands out in a text has a style.** -/
theorem Highlight.hasStyle_of_mem_spans {text : Text} {span : Span Text} (h : span ∈ spans text) :
    Theme.HasStyle span.look := by
  obtain ⟨shape, hshape, hspan⟩ := List.mem_flatMap.1 h
  obtain ⟨part, hpart, rfl⟩ := List.mem_map.1 hspan
  have hmark := Pattern.mark_of_mem_occurrences hpart
  obtain ⟨hrepr, hwords⟩ := marks_repr shape hshape part.mark hmark
  refine Theme.hasStyle_of_words ?_
  cases hfound : Theme.entries.lookup part.mark with
  | none => exact hwords
  | some words =>
    obtain ⟨before, behind, hentries, -⟩ := List.lookup_eq_some_iff.1 hfound
    refine Theme.words_of_repr (part.mark, words) ?_ hrepr
    rw [hentries]
    exact List.mem_append_right _ List.mem_cons_self

end ControlChannel
