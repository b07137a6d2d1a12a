import ControlChannel.Proofs.DerivedAddress

/-!
# Programs that share a shortened address

A path that is too long is replaced by a digest, and what is digested is the path in octets, with a
question mark for each surrogate.  Two programs with long paths meet at one address if their names
become the same by this, and otherwise only where the beginnings of two digests collide.

* `Utf8.replaced`, `Utf8.encodeReplacing_eq_iff` — the octets with question marks tell two texts
  apart **as far as the question marks do**;
* `Path.exists_toText_join` — the texts of the paths in one directory differ by the name alone;
* `Sha256.Collide` — two octet strings whose digests begin alike;
* `Surroundings.socketPath_shared_iff` — which programs share a shortened address;
* `Surroundings.surrogate_socketPath_shared` — two names, and one address.
-/

namespace ControlChannel

/-! ### Question marks for surrogates -/

namespace Utf8

/-- The code point, or a question mark in place of a surrogate. -/
def replaced (c : CodePoint) : CodePoint := if c.isSurrogate then '?' else c

theorem map_replaced {text : Text} (h : ∀ c ∈ text, c.isSurrogate = false) :
    text.map replaced = text := by
  rw [List.map_congr_left (g := id), List.map_id]
  intro c hc
  rw [replaced, h c hc]
  rfl

theorem isSurrogate_replaced (c : CodePoint) : (replaced c).isSurrogate = false := by
  unfold replaced
  split_ifs with h
  · decide
  · exact Bool.eq_false_iff.2 h

/-- The octets with question marks are those of the text with question marks. -/
theorem encodeReplacing_eq (text : Text) :
    encodeReplacing text = (text.map replaced).flatMap octets := by
  rw [List.flatMap_map]
  refine List.flatMap_congr fun c _ => ?_
  rw [replaced]
  split_ifs
  · rfl
  · rfl

/-- **The octets with question marks** are the same exactly for texts that are the same with
question marks: such a text has octets, and they spell it. -/
theorem encodeReplacing_eq_iff (text other : Text) :
    encodeReplacing text = encodeReplacing other ↔ text.map replaced = other.map replaced := by
  have hspelled : ∀ text : Text, decode (encodeReplacing text) = .ok (text.map replaced) := by
    intro text
    rw [encodeReplacing_eq]
    apply decode_flatMap_octets
    intro c hc
    obtain ⟨c, -, rfl⟩ := List.mem_map.1 hc
    exact isSurrogate_replaced c
  constructor
  · intro h
    have hboth := hspelled text
    rw [h, hspelled other] at hboth
    exact (Except.ok.inj hboth).symm
  · intro h
    rw [encodeReplacing_eq, encodeReplacing_eq, h]

end Utf8

/-! ### Names in one directory -/

namespace Path

/-- The texts of the paths in a directory begin alike, and end with the name. -/
theorem exists_toText_join (directory : Path) :
    ∃ front : Text, ∀ name,
      (directory.join { root := .relative, names := [name] }).toText = front ++ name := by
  by_cases hnames : directory.names = []
  · refine ⟨directory.root.toText, fun name => ?_⟩
    rw [toText_join_name, hnames]
    simp [Text.joined]
  · refine ⟨directory.root.toText ++ (Text.joined [slash] directory.names ++ [slash]), fun name => ?_⟩
    rw [toText_join_name, Text.joined_concat _ hnames]
    simp only [List.append_assoc]

/-- Paths in a directory are as different as the names. -/
theorem join_inj (directory : Path) (name other : Text) :
    directory.join { root := .relative, names := [name] }
        = directory.join { root := .relative, names := [other] } ↔ name = other := by
  simp [join]

end Path

/-! ### Shared addresses -/

namespace Sha256

/-- Two octet strings that differ, while the first sixteen digits of their digests do not. -/
def Collide (message other : Bytes) : Prop :=
  message ≠ other ∧ (hexDigest message).take 16 = (hexDigest other).take 16

end Sha256

namespace Surroundings

/-- The digest is all that tells two shortened names apart. -/
theorem shortenedName_inj (long other : Text) :
    shortenedName long = shortenedName other ↔
      (Sha256.hexDigest (Utf8.encodeReplacing long)).take 16
        = (Sha256.hexDigest (Utf8.encodeReplacing other)).take 16 := by
  unfold shortenedName
  rw [List.append_left_inj, List.append_right_inj]

/-- Two shortened names are the same for paths with the same octets, and for a collision. -/
theorem shortenedName_eq_iff (long other : Text) :
    shortenedName long = shortenedName other ↔
      long.map Utf8.replaced = other.map Utf8.replaced ∨
        Sha256.Collide (Utf8.encodeReplacing long) (Utf8.encodeReplacing other) := by
  rw [shortenedName_inj, ← Utf8.encodeReplacing_eq_iff]
  by_cases hoctets : Utf8.encodeReplacing long = Utf8.encodeReplacing other
  · exact iff_of_true (by rw [hoctets]) (.inl hoctets)
  · simp only [Sha256.Collide, hoctets, false_or, ne_eq, not_false_eq_true, true_and]

/-- The path of a program whose plain path is too long. -/
theorem socketPath_of_long {s : Surroundings} {name : Text} (hname : name ≠ []) {directory : Path}
    (h : s.runtimeDirectory = .ok directory)
    (hlong : longestSocketPath < (directory.join (Path.ofText (name ++ ".sock"))).toText.length) :
    s.socketPath (some name)
      = .ok ((Path.ofText s.temporary).join
          { root := .relative
            names := [shortenedName (directory.join (Path.ofText (name ++ ".sock"))).toText] }) := by
  rw [socketPath_eq hname h]
  dsimp only
  rw [if_pos hlong, ofText_shortenedName]

/-- **Which programs share a shortened address.**  Take two programs with names, neither of which
has a slash in it, and surroundings with a runtime directory in which the plain paths of both have
too many characters.  Then there is a path for either socket, and

* it is one path exactly if the names become the same with a question mark in place of each
  surrogate, or the octets of the plain paths collide;
* names without surrogates that differ meet in a collision only. -/
theorem socketPath_shared_iff (s : Surroundings) {name other : Text} (hname : name ≠ [])
    (hother : other ≠ []) (hslash : Path.slash ∉ name) (hslash' : Path.slash ∉ other)
    {directory : Path} (h : s.runtimeDirectory = .ok directory)
    (hlong : longestSocketPath < (directory.join (Path.ofText (name ++ ".sock"))).toText.length)
    (hlong' : longestSocketPath < (directory.join (Path.ofText (other ++ ".sock"))).toText.length) :
    let plain := (directory.join (Path.ofText (name ++ ".sock"))).toText
    let plain' := (directory.join (Path.ofText (other ++ ".sock"))).toText
    ∃ path path', s.socketPath (some name) = .ok path ∧ s.socketPath (some other) = .ok path' ∧
      (path = path' ↔ name.map Utf8.replaced = other.map Utf8.replaced ∨
        Sha256.Collide (Utf8.encodeReplacing plain) (Utf8.encodeReplacing plain')) ∧
      ((∀ c ∈ name ++ other, c.isSurrogate = false) → name ≠ other → path = path' →
        Sha256.Collide (Utf8.encodeReplacing plain) (Utf8.encodeReplacing plain')) := by
  intro plain plain'
  have hshared : shortenedName plain = shortenedName plain' ↔
      name.map Utf8.replaced = other.map Utf8.replaced ∨
        Sha256.Collide (Utf8.encodeReplacing plain) (Utf8.encodeReplacing plain') := by
    obtain ⟨front, hfront⟩ := Path.exists_toText_join directory
    -- both plain paths are the name between the same beginning and the same suffix
    have hplain : plain.map Utf8.replaced = plain'.map Utf8.replaced ↔
        name.map Utf8.replaced = other.map Utf8.replaced := by
      simp only [plain, plain', Path.ofText_socketName hslash, Path.ofText_socketName hslash',
        hfront, List.map_append, List.append_right_inj, List.append_left_inj]
    rw [shortenedName_eq_iff, hplain]
  refine ⟨_, _, socketPath_of_long hname h hlong, socketPath_of_long hother h hlong', ?_, ?_⟩
  · rw [Path.join_inj]
    exact hshared
  · intro hscalar hne hpath
    rw [Path.join_inj] at hpath
    refine (hshared.1 hpath).resolve_left fun hreplaced => hne ?_
    rwa [Utf8.map_replaced fun c hc => hscalar c (List.mem_append_left _ hc),
      Utf8.map_replaced fun c hc => hscalar c (List.mem_append_right _ hc)] at hreplaced

/-- Two names of a hundred letters and more, which differ in the last one, lead to two addresses. -/
theorem lettered_socketPath_apart :
    let name : Text := List.replicate 100 (0x61 : CodePoint) ++ "b"
    let other : Text := List.replicate 100 (0x61 : CodePoint) ++ "c"
    ∃ path path', bare.socketPath (some name) = .ok path ∧ bare.socketPath (some other) = .ok path' ∧
      path ≠ path' := by
  intro name other
  have hdirectory : bare.runtimeDirectory = .ok (Path.ofText "/tmp") := rfl
  have hname : name ≠ [] ∧ Path.slash ∉ name := by decide
  have hother : other ≠ [] ∧ Path.slash ∉ other := by decide
  obtain ⟨path, path', hpath, hpath', hshared, -⟩ :=
    bare.socketPath_shared_iff hname.1 hother.1 hname.2 hother.2 hdirectory (by decide +kernel)
      (by decide +kernel)
  refine ⟨path, path', hpath, hpath', fun hsame => ?_⟩
  obtain hreplaced | ⟨-, hdigests⟩ := hshared.1 hsame
  · revert hreplaced
    decide
  · revert hdigests
    decide +kernel

/-- **Two names, and one address**: the names end in an octet that is no character, and in a
question mark.  Neither is empty or has a slash in it, both plain paths have too many characters,
and there is no collision, because the octets that are digested are the same. -/
theorem surrogate_socketPath_shared :
    let name : Text := List.replicate 100 (0x61 : CodePoint) ++ [0xDC80]
    let other : Text := List.replicate 100 (0x61 : CodePoint) ++ "?"
    let plain := ((Path.ofText "/tmp").join (Path.ofText (name ++ ".sock"))).toText
    let plain' := ((Path.ofText "/tmp").join (Path.ofText (other ++ ".sock"))).toText
    name ≠ other ∧ name ≠ [] ∧ other ≠ [] ∧ Path.slash ∉ name ∧ Path.slash ∉ other ∧
      bare.runtimeDirectory = .ok (Path.ofText "/tmp") ∧
      longestSocketPath < plain.length ∧ longestSocketPath < plain'.length ∧
      ¬ Sha256.Collide (Utf8.encodeReplacing plain) (Utf8.encodeReplacing plain') ∧
      ∃ path, bare.socketPath (some name) = .ok path ∧ bare.socketPath (some other) = .ok path := by
  intro name other plain plain'
  have hdirectory : bare.runtimeDirectory = .ok (Path.ofText "/tmp") := rfl
  have hlong : longestSocketPath < plain.length := by decide +kernel
  have hlong' : longestSocketPath < plain'.length := by decide +kernel
  have hoctets : Utf8.encodeReplacing plain = Utf8.encodeReplacing plain' := by decide +kernel
  have hdigested : shortenedName plain = shortenedName plain' := by
    rw [shortenedName_inj, hoctets]
  refine ⟨by decide, by decide, by decide, by decide, by decide, hdirectory, hlong, hlong',
    fun hcollide => hcollide.1 hoctets, _, socketPath_of_long (by decide) hdirectory hlong, ?_⟩
  rw [socketPath_of_long (by decide) hdirectory hlong']
  change Except.ok ((Path.ofText bare.temporary).join ⟨.relative, [shortenedName plain']⟩)
    = .ok ((Path.ofText bare.temporary).join ⟨.relative, [shortenedName plain]⟩)
  rw [hdigested]

end Surroundings

end ControlChannel
