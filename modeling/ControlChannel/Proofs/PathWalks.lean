import ControlChannel.FileTree
import Mathlib.Tactic.SplitIfs

/-!
# Walks along names and through links

`FileTree.walk` goes on from each link with what is left of its budget.  A walk that ends is a
derivation in `FileTree.Walks`, whose rules are those of the system: a directory is entered, and a
link is followed, wherever on the way it lies.

* `FileTree.Walks`, `FileTree.walk_eq_ok_iff` — the rules, and that the walks are those that keep
  to them;
* `FileTree.lead_eq_ok_iff` — the place that a path leads to;
* `FileTree.Walks.of_ways` — only **the directories and the links** of a tree decide where a walk
  ends;
* `FileTree.Walks.unfollowed`, `FileTree.Walks.followed_end` — a walk through the link at its end,
  and one that stays there;
* `FileTree.Walks.above` — what a walk ends at lies in a directory.
-/

namespace ControlChannel

namespace FileTree

/-- A walk along names from a place, which follows so many links at most, ends at a place. -/
inductive Walks (t : FileTree) (through : Bool) : Nat → Place → List Text → Place → Prop
  | ended {links : Nat} {here : Place}
      (stays : through = true → ∀ next, t.get? here ≠ some (.link next)) :
      Walks t through links here [] here
  | entered {links : Nat} {here last : Place} {name : Text} {names : List Text}
      (directory : t.get? here = some .directory)
      (short : (Utf8.encodeEscaping name).length ≤ longestName)
      (rest : Walks t through links (childOf here name) names last) :
      Walks t through links here (name :: names) last
  | followed {links : Nat} {here last : Place} {next : Path} {names : List Text}
      (link : t.get? here = some (.link next)) (onward : through = true ∨ names ≠ [])
      (rest : Walks t through links (baseOf here next) (next.names ++ names) last) :
      Walks t through (links + 1) here names last

variable {t t' : FileTree} {through : Bool} {links : Nat} {here last : Place} {name : Text}
  {names : List Text} {next : Path}

/-! ### The walk, step by step -/

/-- A walk ends where its names do, unless a link lies there that it goes through. -/
theorem walk_nil (h : through = true → ∀ next, t.get? here ≠ some (.link next)) :
    t.walk through links here [] = .ok here := by
  have hadvance : t.advance through here [] = .ok (.ended here) := by
    unfold advance
    split
    · rename_i next hnext
      rw [if_neg fun hthrough => h hthrough next hnext]
    · rfl
  cases links <;> rw [walk, hadvance]

theorem walk_entered (h : t.get? here = some .directory)
    (hshort : (Utf8.encodeEscaping name).length ≤ longestName) :
    t.walk through links here (name :: names) = t.walk through links (childOf here name) names := by
  have hadvance : t.advance through here (name :: names)
      = t.advance through (childOf here name) names := by
    rw [advance, h]
    exact if_neg (Nat.not_lt.2 hshort)
  cases links <;> rw [walk, walk, hadvance]

theorem advance_linked (h : t.get? here = some (.link next))
    (honward : through = true ∨ names ≠ []) :
    t.advance through here names = .ok (.linked here next names) := by
  cases names with
  | nil =>
    obtain hthrough | hnil := honward
    · rw [advance, h]
      simp only [hthrough, if_true]
    · exact absurd rfl hnil
  | cons name names => rw [advance, h]

theorem walk_followed (h : t.get? here = some (.link next))
    (honward : through = true ∨ names ≠ []) :
    t.walk through (links + 1) here names
      = t.walk through links (baseOf here next) (next.names ++ names) := by
  rw [walk, advance_linked h honward]

/-- No walk goes on from where nothing lies. -/
theorem walk_missing (h : t.get? here = none) :
    t.walk through links here (name :: names) = .error .noEntry := by
  have hadvance : t.advance through here (name :: names) = .error .noEntry := by
    rw [advance, h]
  cases links <;> rw [walk, hadvance]

/-! ### The walks are those that keep to the rules -/

theorem walks_of_ended (h : t.advance through here names = .ok (.ended last)) :
    Walks t through links here names last := by
  induction names generalizing here with
  | nil =>
    unfold advance at h
    split at h
    · split_ifs at h with hthrough
      · cases h
      · cases h
        exact .ended fun h => absurd h hthrough
    · rename_i hstays
      cases h
      exact .ended fun _ => hstays
  | cons name names ih =>
    unfold advance at h
    split at h
    · rename_i hdirectory
      split_ifs at h with hlong
      exact .entered hdirectory (Nat.le_of_not_lt hlong) (ih h)
    all_goals cases h

theorem walks_of_linked {link : Place} {rest : List Text}
    (h : t.advance through here names = .ok (.linked link next rest))
    (hrest : Walks t through links (baseOf link next) (next.names ++ rest) last) :
    Walks t through (links + 1) here names last := by
  induction names generalizing here with
  | nil =>
    unfold advance at h
    split at h
    · rename_i hlink
      split_ifs at h with hthrough
      · cases h
        exact .followed hlink (.inl hthrough) hrest
      · cases h
    · cases h
  | cons name names ih =>
    unfold advance at h
    split at h
    · rename_i hdirectory
      split_ifs at h with hlong
      exact .entered hdirectory (Nat.le_of_not_lt hlong) (ih h)
    · rename_i hlink
      cases h
      exact .followed hlink (.inr (List.cons_ne_nil _ _)) hrest
    all_goals cases h

/-- **A walk ends at a place exactly if the rules lead there.** -/
theorem walk_eq_ok_iff :
    t.walk through links here names = .ok last ↔ Walks t through links here names last := by
  constructor
  · intro h
    induction links generalizing here names with
    | zero =>
      unfold walk at h
      split at h
      · rename_i hended
        cases h
        exact walks_of_ended hended
      all_goals cases h
    | succ links ih =>
      unfold walk at h
      split at h
      · rename_i hended
        cases h
        exact walks_of_ended hended
      · exact walks_of_linked ‹_› (ih h)
      · cases h
  · intro h
    induction h with
    | ended stays => exact walk_nil stays
    | entered directory short _ ih => rw [walk_entered directory short, ih]
    | followed link onward _ ih => rw [walk_followed link onward, ih]

/-- The place that a path leads to: its text is one that the system takes, and the rules lead
there. -/
theorem lead_eq_ok_iff {path : Path} :
    t.lead through path = .ok last ↔
      checkText path.toText = .ok () ∧
        Walks t through mostLinks { absolute := path.root ≠ .relative, names := [] } path.names
          last := by
  unfold lead
  cases checkText path.toText with
  | error fault => exact iff_of_false nofun fun h => by cases h.1
  | ok _ => exact walk_eq_ok_iff.trans (iff_and_self.2 fun _ => rfl)

/-! ### What decides where a walk ends -/

/-- The second tree has the ways of the first one, which are its directories and its links. -/
structure KeepsWays (t t' : FileTree) : Prop where
  directory : ∀ place, t.get? place = some .directory → t'.get? place = some .directory
  link : ∀ place next, t.get? place = some (.link next) → t'.get? place = some (.link next)

/-- **A walk ends at the same place in a tree that keeps its ways**, and if it goes through a link
at its end, also none may lie at the place where it ended. -/
theorem Walks.of_ways (h : Walks t through links here names last) (hkeeps : KeepsWays t t')
    (hend : through = true → ∀ next, t'.get? last ≠ some (.link next)) :
    Walks t' through links here names last := by
  induction h with
  | ended _ => exact .ended hend
  | entered directory short _ ih => exact .entered (hkeeps.directory _ directory) short (ih hend)
  | followed link onward _ ih => exact .followed (hkeeps.link _ _ link) onward (ih hend)

/-! ### Links at the end, and the directory above it -/

/-- A walk that stays at a link at its end ends where one through it does, or else at a link. -/
theorem Walks.unfollowed (h : Walks t true links here names last) :
    ∃ place, Walks t false links here names place ∧
      (place = last ∨ ∃ next, t.get? place = some (.link next)) := by
  induction h with
  | ended _ => exact ⟨_, .ended nofun, .inl rfl⟩
  | entered directory short _ ih =>
    obtain ⟨place, hwalks, hend⟩ := ih
    exact ⟨place, .entered directory short hwalks, hend⟩
  | @followed _ here _ next names link _ _ ih =>
    by_cases hnames : names = []
    · subst hnames
      exact ⟨here, .ended nofun, .inr ⟨next, link⟩⟩
    · obtain ⟨place, hwalks, hend⟩ := ih
      exact ⟨place, .followed link (.inr hnames) hwalks, hend⟩

/-- A walk through the link at its end ends at no link. -/
theorem Walks.not_link (h : Walks t true links here names last) (next : Path) :
    t.get? last ≠ some (.link next) := by
  induction h with
  | ended stays => exact stays rfl next
  | entered _ _ _ ih => exact ih
  | followed _ _ _ ih => exact ih

/-- A walk through the link at its end ends where one does that stays there, unless this is a
link. -/
theorem Walks.followed_end (h : Walks t false links here names last)
    (hlink : ∀ next, t.get? last ≠ some (.link next)) : Walks t true links here names last := by
  induction h with
  | ended _ => exact .ended fun _ => hlink
  | entered directory short _ ih => exact .entered directory short (ih hlink)
  | followed link _ _ ih => exact .followed link (.inl rfl) (ih hlink)

/-- **What a walk ends at lies in a directory**, at which the walk without its last name ends. -/
theorem Walks.above (h : Walks t false links here (names ++ [name]) last) :
    ∃ above, Walks t true links here names above ∧ t.get? above = some .directory := by
  generalize hmore : names ++ [name] = more at h
  induction h generalizing names with
  | ended _ => exact absurd hmore (by simp)
  | @entered _ here _ _ _ directory short _ ih =>
    cases names with
    | nil =>
      refine ⟨here, .ended fun _ next hnext => ?_, directory⟩
      rw [directory] at hnext
      cases hnext
    | cons first names =>
      rw [List.cons_append, List.cons.injEq] at hmore
      obtain ⟨rfl, hmore⟩ := hmore
      obtain ⟨above, hwalks, habove⟩ := ih hmore
      exact ⟨above, .entered directory short hwalks, habove⟩
  | @followed _ _ _ next more link _ _ ih =>
    have hbehind : (next.names ++ names) ++ [name] = next.names ++ more := by
      rw [List.append_assoc, hmore]
    obtain ⟨above, hwalks, habove⟩ := ih hbehind
    exact ⟨above, .followed link (.inl rfl) hwalks, habove⟩

end FileTree

end ControlChannel
