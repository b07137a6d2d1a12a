import ControlChannel.Proofs.AddressLength

/-!
# Where the derived address of a program lies

A program may be called by any text at all, with slashes and dots wherever.  Its name is one name
nonetheless, so that its socket lies directly in the runtime directory, or in the directory for
temporary files.

* `Path.slash_not_mem_name`, `Path.stemOf_prefix` — the last name of a path, and what is left of it
  without its last suffix;
* `programName_proper` — a program's name is **one name, never empty**;
* `Path.IsChild` — a path lies directly in a directory, under a name;
* `Sha256.length_hexDigest`, `Sha256.isSome_hexValue?_of_mem` — the digits of a digest;
* `Surroundings.socketPath_isChild` — the two places where a derived address can lie, and when it
  lies in which.
-/

namespace ControlChannel

/-! ### The name of a program -/

namespace Path

/-- Without its last suffix a name is shorter at its end, or the same. -/
theorem stemOf_prefix (name : Text) : stemOf name <+: name := by
  unfold stemOf
  dsimp only
  split_ifs
  · exact List.prefix_refl name
  · exact List.take_prefix _ name

/-- The last name of a path that is read from a text is a piece between slashes. -/
theorem slash_not_mem_name (text : Text) : slash ∉ (ofText text).name := by
  unfold name
  cases hlast : (ofText text).names.getLast? with
  | none => exact List.not_mem_nil
  | some last =>
    obtain ⟨hpiece, -⟩ := List.mem_filter.1 (List.mem_of_getLast? hlast)
    exact Text.not_mem_of_mem_splitOn hpiece

end Path

/-- **The name of a program** is not empty and no path of several names, whatever text the program
was called by. -/
theorem programName_proper (argv0 : Text) :
    programName argv0 ≠ [] ∧ Path.slash ∉ programName argv0 := by
  unfold programName
  dsimp only
  split_ifs with hanonymous
  · decide
  · have hstem : (Path.ofText argv0).stem ≠ [] := by
      intro hnone
      simp [hnone] at hanonymous
    refine ⟨hstem, fun hmem => ?_⟩
    exact Path.slash_not_mem_name argv0 ((Path.stemOf_prefix _).subset hmem)

/-! ### Paths directly in a directory -/

namespace Path

/-- The path lies directly in the directory, and this is its name there. -/
def IsChild (path directory : Path) (name : Text) : Prop :=
  path.parent = directory ∧ path.name = name

theorem isChild_join (directory : Path) (name : Text) :
    (directory.join { root := .relative, names := [name] }).IsChild directory name := by
  simp [IsChild, join, parent, Path.name]

/-- There is one path under a name in a directory. -/
theorem IsChild.eq_join {path directory : Path} {name : Text} (h : path.IsChild directory name)
    (hname : name ≠ []) : path = directory.join { root := .relative, names := [name] } := by
  obtain ⟨rfl, rfl⟩ := h
  have hnames : path.names ≠ [] := by
    intro hnone
    simp [Path.name, hnone] at hname
  have hlast : path.name = path.names.getLast hnames := by
    rw [Path.name, List.getLast?_eq_some_getLast hnames]
    rfl
  rw [hlast]
  simp only [join, parent, List.dropLast_append_getLast]

/-- A name without a slash stays one name when the suffix of sockets comes behind it. -/
theorem ofText_socketName {name : Text} (hslash : slash ∉ name) :
    ofText (name ++ ".sock") = { root := .relative, names := [name ++ ".sock"] } := by
  have hlength : (name ++ ".sock" : Text).length = name.length + 5 := List.length_append
  refine ofText_name ?_ ?_ ?_
  · exact List.ne_nil_of_length_pos (by omega)
  · intro hdot
    rw [hdot] at hlength
    have : ("." : Text).length = 1 := rfl
    omega
  · rw [List.mem_append]
    exact not_or.2 ⟨hslash, by decide⟩

end Path

/-! ### The digits of a digest -/

namespace Sha256

theorem length_hexDigest (message : Bytes) : (hexDigest message).length = 64 := by
  have hdigest : (digest message).length = 32 := by
    simp [digest, bigEndian]
  simp [hexDigest, Text.hex, List.length_flatMap, hdigest]

theorem isSome_hexValue?_of_mem {message : Bytes} {c : CodePoint} (h : c ∈ hexDigest message) :
    c.hexValue?.isSome = true := by
  simp only [hexDigest, Text.hex, List.mem_flatMap, List.mem_map] at h
  obtain ⟨_, _, _, _, rfl⟩ := h
  rw [CodePoint.hexValue?_ofHexDigit _ (Nat.mod_lt _ (by decide))]
  rfl

end Sha256

/-! ### The derived path -/

namespace Surroundings

/-- **Where a derived address lies.**  Take any text that a program may be called by, and
surroundings with a runtime directory.  The program's name is not empty and has no slash in it, and
there is a path for its socket.  Its plain path lies directly in the runtime directory, under the
name with the suffix of sockets.  If this has too many characters, then the path lies directly in
the directory for temporary files, under sixteen hexadecimal digits between the default name and the
suffix; otherwise it is the plain one. -/
theorem socketPath_isChild (s : Surroundings) (argv0 : Text) {directory : Path}
    (h : s.runtimeDirectory = .ok directory) :
    let name := programName argv0
    name ≠ [] ∧ Path.slash ∉ name ∧
      ∃ plain path, plain.IsChild directory (name ++ ".sock") ∧
        s.socketPath (some name) = .ok path ∧
        if longestSocketPath < plain.toText.length then
          ∃ digits : Text, digits.length = 16 ∧ (∀ d ∈ digits, d.hexValue?.isSome = true) ∧
            path.IsChild (Path.ofText s.temporary) ("hypermangle_" ++ digits ++ ".sock")
        else path = plain := by
  intro name
  obtain ⟨hname, hslash⟩ : name ≠ [] ∧ Path.slash ∉ name := programName_proper argv0
  refine ⟨hname, hslash, directory.join (Path.ofText (name ++ ".sock")), _, ?_,
    socketPath_eq hname h, ?_⟩
  · rw [Path.ofText_socketName hslash]
    exact Path.isChild_join directory _
  · split_ifs with hlong
    · let long := (directory.join (Path.ofText (name ++ ".sock"))).toText
      refine ⟨(Sha256.hexDigest (Utf8.encodeReplacing long)).take 16, ?_, ?_, ?_⟩
      · rw [List.length_take, Sha256.length_hexDigest]
        rfl
      · exact fun d hd => Sha256.isSome_hexValue?_of_mem (List.mem_of_mem_take hd)
      · rw [ofText_shortenedName]
        exact Path.isChild_join _ _
    · rfl

/-- A program of a hundred letters is found in the directory for temporary files, also when it is
called by a path with a suffix, and with a slash and a dot behind it. -/
theorem lengthy_socketPath_isChild :
    let argv0 : Text := "/opt/" ++ List.replicate 100 (0x61 : CodePoint) ++ ".py/."
    programName argv0 = List.replicate 100 (0x61 : CodePoint) ∧
      ∃ path, ∃ digits : Text, bare.socketPath (some (programName argv0)) = .ok path ∧
        digits.length = 16 ∧ (∀ d ∈ digits, d.hexValue?.isSome = true) ∧
        path.IsChild (Path.ofText "/tmp") ("hypermangle_" ++ digits ++ ".sock") := by
  intro argv0
  have hname : programName argv0 = List.replicate 100 (0x61 : CodePoint) := by decide +kernel
  have hdirectory : bare.runtimeDirectory = .ok (Path.ofText "/tmp") := rfl
  obtain ⟨-, -, plain, path, hplain, hpath, hplace⟩ := bare.socketPath_isChild argv0 hdirectory
  have hlong : longestSocketPath < plain.toText.length := by
    rw [hplain.eq_join (by rw [hname]; decide), hname]
    decide +kernel
  rw [if_pos hlong] at hplace
  obtain ⟨digits, hdigits⟩ := hplace
  exact ⟨hname, path, digits, hpath, hdigits⟩

end Surroundings

end ControlChannel
