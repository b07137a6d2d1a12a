import ControlChannel.CommandLine.Screen
import Mathlib.Data.List.TakeWhile

/-!
# Texts that are shown

A screen shows the texts that the encoding of its first stream takes, and refuses the others.

* `Charset.refusal?_eq_none_iff`, `Charset.takes_utf8_iff` — which texts are taken;
* `Screen.write_of_takes`, `Screen.writeAll_of_takes` — **texts that are taken are shown one after the
  other**;
* `Screen.writeAll_eq_ok_iff` — no others are.
-/

namespace ControlChannel

namespace Charset

variable {charset : Charset} {text : Text}

theorem refusal?_eq_none_iff : charset.refusal? text = none ↔ charset.Takes text := by
  have hdropped : text.dropWhile (! charset.lacks ·) = [] ↔ charset.Takes text := by
    simp [Takes, List.dropWhile_eq_nil_iff]
  unfold refusal?
  split
  · rename_i hnil
    exact iff_of_true rfl (hdropped.1 hnil)
  · rename_i hbad
    exact iff_of_false nofun (mt hdropped.2 hbad)

/-- **UTF-8 takes the texts without lone surrogates.** -/
theorem takes_utf8_iff : utf8.Takes text ↔ ∀ c ∈ text, c.isSurrogate = false := by
  have hlacks (c : CodePoint) : utf8.lacks c = c.isSurrogate := by
    rw [lacks, utf8, List.any_cons, List.any_nil, Bool.or_false, CodePoint.isSurrogate,
      Bool.eq_iff_iff]
    simp only [Bool.and_eq_true, decide_eq_true_eq]
    omega
  simp only [Takes, hlacks]

end Charset

namespace Screen

variable {s : Screen} {text : Text}

/-- A text that is taken is shown. -/
theorem write_of_takes (h : s.charset.Takes text) :
    s.write text = .ok { s with out := s.out ++ text } := by
  rw [write, Charset.refusal?_eq_none_iff.2 h]

theorem write_eq_ok_iff {shown : Screen} :
    s.write text = .ok shown ↔ s.charset.Takes text ∧ shown = { s with out := s.out ++ text } := by
  unfold write
  cases hrefused : s.charset.refusal? text with
  | none =>
    rw [Except.ok.injEq, eq_comm]
    exact (and_iff_right (Charset.refusal?_eq_none_iff.1 hrefused)).symm
  | some fault =>
    refine iff_of_false nofun fun h => ?_
    rw [Charset.refusal?_eq_none_iff.2 h.1] at hrefused
    cases hrefused

/-- **Texts are shown one after the other exactly if all of them are taken.** -/
theorem writeAll_eq_ok_iff {texts : List Text} {shown : Screen} :
    s.writeAll texts = .ok shown ↔
      (∀ text ∈ texts, s.charset.Takes text) ∧ shown = { s with out := s.out ++ texts.flatten } := by
  unfold writeAll
  induction texts generalizing s with
  | nil =>
    rw [List.foldlM_nil, List.flatten_nil, List.append_nil]
    exact ⟨fun h => ⟨nofun, (Except.ok.inj h).symm⟩, fun h => congrArg Except.ok h.2.symm⟩
  | cons text texts ih =>
    rw [List.foldlM_cons, List.forall_mem_cons, List.flatten_cons, ← List.append_assoc]
    by_cases htakes : s.charset.Takes text
    · rw [write_of_takes htakes, and_iff_right htakes]
      exact ih
    · have hrefused : ∃ fault, s.write text = .error fault := by
        cases hwrite : s.write text with
        | error fault => exact ⟨fault, rfl⟩
        | ok shown => exact absurd (write_eq_ok_iff.1 hwrite).1 htakes
      obtain ⟨fault, hfault⟩ := hrefused
      rw [hfault]
      exact iff_of_false nofun fun h => htakes h.1.1

theorem writeAll_of_takes {texts : List Text} (h : ∀ text ∈ texts, s.charset.Takes text) :
    s.writeAll texts = .ok { s with out := s.out ++ texts.flatten } :=
  writeAll_eq_ok_iff.2 ⟨h, rfl⟩

theorem writeAll_singleton (s : Screen) (text : Text) : s.writeAll [text] = s.write text := by
  rw [writeAll, List.foldlM_cons]
  cases s.write text <;> rfl

end Screen

end ControlChannel
