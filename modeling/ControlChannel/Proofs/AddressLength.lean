import ControlChannel.Address
import ControlChannel.Proofs.EchoedWords
import ControlChannel.Proofs.FailedStart

/-!
# The length of a derived address

The system counts the octets of a socket's address, and refuses one with more than
`FileTree.longestAddress` of them.  The path that is derived from a program's name is measured in
code points, of which each may take up to four octets.

* `Utf8.length_encodeEscaping` — the octets of a text: one for each code point, and what the code
  points beyond ASCII take in addition;
* `Text.FitsAddress` — the text has octets, and **not too many for an address**;
* `FileTree.RefusesLength` — a connection to an address, or a bind, fails because it is too long;
* `Path.length_join_le` — a short name in a directory is hardly longer than the directory's text;
* `Surroundings.socketPath_fits_exactly` — which derived paths fit: all that were shortened, and of
  the others those whose code points take few octets;
* `Surroundings.accented_socketPath_refused` — a name that is short in code points, and too long.
-/

namespace ControlChannel

/-! ### Octets of a text -/

namespace Utf8

/-- The octets that a code point takes in addition to the first.  One that stands for an octet takes
just this one. -/
def surplus (c : CodePoint) : Nat :=
  if isEscape c || c.val < 0x80 then 0
  else if c.val < 0x800 then 1
  else if c.val < 0x10000 then 2
  else 3

@[simp] theorem surplus_of_lt {c : CodePoint} (h : c.val < 0x80) : surplus c = 0 := by
  simp [surplus, h]

theorem length_octets_of_not_isEscape {c : CodePoint} (h : isEscape c = false) :
    (octets c).length = 1 + surplus c := by
  simp only [octets, surplus, h, Bool.false_or, decide_eq_true_eq]
  split_ifs <;> rfl

/-- **The octets of a text** are one for each code point and what they take in addition. -/
theorem length_encodeEscaping (t : Text) :
    (encodeEscaping t).length = t.length + (t.map surplus).sum := by
  induction t with
  | nil => rfl
  | cons c t ih =>
    have hc : (if isEscape c then [UInt8.ofNat (c.val - 0xDC00)] else octets c).length
        = 1 + surplus c := by
      cases hescape : isEscape c with
      | false => simpa using length_octets_of_not_isEscape hescape
      | true => simp [surplus, hescape]
    rw [encodeEscaping, List.flatMap_cons, List.length_append, hc, ← encodeEscaping, ih,
      List.length_cons, List.map_cons, List.sum_cons]
    omega

end Utf8

namespace Text

/-- The text can be the address of a socket file: it has octets, and not too many of them. -/
def FitsAddress (t : Text) : Prop :=
  ∃ octets, Utf8.encodeEscaping? t = .ok octets ∧ octets.length ≤ FileTree.longestAddress

theorem fitsAddress_iff (t : Text) :
    t.FitsAddress ↔ (∀ c ∈ t, (! c.isSurrogate || Utf8.isEscape c) = true) ∧
      t.length + (t.map Utf8.surplus).sum ≤ FileTree.longestAddress := by
  simp only [FitsAddress, Utf8.encodeEscaping?_eq_ok_iff, ← Utf8.length_encodeEscaping]
  constructor
  · rintro ⟨_, ⟨hescape, rfl⟩, hlength⟩
    exact ⟨hescape, hlength⟩
  · rintro ⟨hescape, hlength⟩
    exact ⟨_, ⟨hescape, rfl⟩, hlength⟩

/-- A text in ASCII takes one octet for each character. -/
theorem fitsAddress_of_ascii {t : Text} (hascii : ∀ c ∈ t, c.val < 0x80)
    (hlength : t.length ≤ FileTree.longestAddress) : t.FitsAddress := by
  have hsurplus : (t.map Utf8.surplus).sum = 0 := by
    simp only [List.sum_eq_zero_iff, List.mem_map]
    rintro _ ⟨c, hc, rfl⟩
    exact Utf8.surplus_of_lt (hascii c hc)
  refine (fitsAddress_iff t).2 ⟨?_, by omega⟩
  intro c hc
  have hbelow : ¬ 0xD800 ≤ c.val := by
    have := hascii c hc
    omega
  simp [CodePoint.isSurrogate, hbelow]

end Text

/-! ### Addresses that are refused for their length -/

namespace FileTree

variable (t : FileTree)

/-- A connection to the address, or a bind, is refused because the address is too long. -/
def RefusesLength (address : Text) (inode : Nat) : Prop :=
  t.socketAt address = .error .addressTooLong ∨
    Binding.bind t address inode = .error (.control (.unbindable address .addressTooLong))

/-- Two steps of which neither fails in a certain way do not fail in it one after the other. -/
theorem bind_ne_error {α β : Type} {first : Except OsFault α} {next : α → Except OsFault β}
    {fault : OsFault} (hfirst : first ≠ .error fault) (hnext : ∀ a, next a ≠ .error fault) :
    (first >>= next) ≠ .error fault := by
  cases first with
  | error _ => simpa [bind, Except.bind] using hfirst
  | ok a => exact hnext a

theorem advance_ne_addressTooLong (through : Bool) (place : Place) (names : List Text) :
    t.advance through place names ≠ .error .addressTooLong := by
  induction names generalizing place with
  | nil =>
    rw [advance]
    split <;> simp
  | cons name names ih =>
    rw [advance]
    split
    · split_ifs
      · simp
      · exact ih _
    all_goals simp

theorem walk_ne_addressTooLong (through : Bool) (links : Nat) (place : Place)
    (names : List Text) : t.walk through links place names ≠ .error .addressTooLong := by
  induction links generalizing place names with
  | zero =>
    rw [walk]
    split
    · simp
    · simp
    · rename_i hadvance
      rintro ⟨⟩
      exact advance_ne_addressTooLong t through place names hadvance
  | succ links ih =>
    rw [walk]
    split
    · simp
    · exact ih _ _
    · rename_i hadvance
      rintro ⟨⟩
      exact advance_ne_addressTooLong t through place names hadvance

theorem checkText_ne_addressTooLong (text : Text) : checkText text ≠ .error .addressTooLong := by
  rw [checkText]
  split
  · simp
  · split_ifs <;> simp

theorem lead_ne_addressTooLong (through : Bool) (path : Path) :
    t.lead through path ≠ .error .addressTooLong :=
  bind_ne_error (checkText_ne_addressTooLong _) fun _ => walk_ne_addressTooLong t through _ _ _

theorem reach_ne_addressTooLong (text : Text) : t.reach text ≠ .error .addressTooLong := by
  refine bind_ne_error (checkText_ne_addressTooLong text) fun _ => bind_ne_error ?_ fun node => ?_
  · refine bind_ne_error (lead_ne_addressTooLong t true _) fun place => ?_
    split <;> simp
  · split
    · simp
    · split_ifs <;> simp

/-- **A connection is refused for the length of its address** exactly if this has more octets than
there is room for; a name without a file has room for one more. -/
theorem socketAt_eq_addressTooLong_iff (address : Text) :
    t.socketAt address = .error .addressTooLong ↔
      ∃ octets, Utf8.encodeEscaping? address = .ok octets ∧
        (if address.head? = some 0 then longestAddress + 1 else longestAddress)
          < octets.length := by
  rw [socketAt]
  cases hoctets : Utf8.encodeEscaping? address with
  | error fault => simp [Except.mapError, bind, Except.bind]
  | ok octets =>
    dsimp only [Except.mapError, bind, Except.bind]
    by_cases hlong : (if address.head? = some 0 then longestAddress + 1 else longestAddress)
        < octets.length
    · rw [if_pos hlong]
      exact iff_of_true rfl ⟨octets, rfl, hlong⟩
    · rw [if_neg hlong]
      refine iff_of_false ?_ (by rintro ⟨_, hsame, h⟩; cases hsame; exact hlong h)
      split_ifs
      · simp
      · refine bind_ne_error (reach_ne_addressTooLong t _) fun node => ?_
        split <;> simp

/-- A bind is refused for the length of the address exactly if this has more octets than there is
room for. -/
theorem bind_eq_addressTooLong_iff (address : Text) (inode : Nat) :
    Binding.bind t address inode = .error (.control (.unbindable address .addressTooLong)) ↔
      longestAddress < (Utf8.encodeEscaping address).length := by
  rw [Binding.bind]
  by_cases hlong : longestAddress < (Utf8.encodeEscaping address).length
  · rw [if_pos hlong]
    exact iff_of_true rfl hlong
  · rw [if_neg hlong]
    refine iff_of_false ?_ hlong
    split
    · rename_i fault hlocate
      intro h
      simp only [Except.error.injEq, Failure.control.injEq, ControlError.unbindable.injEq] at h
      exact lead_ne_addressTooLong t false _ (h.2 ▸ hlocate)
    · split_ifs <;> simp

end FileTree


namespace Text

/-- **An address fits exactly if nothing refuses it for its length**, whatever lies in the tree. -/
theorem fitsAddress_iff_not_refusesLength {address : Text} {octets : Bytes}
    (hoctets : Utf8.encodeEscaping? address = .ok octets) :
    address.FitsAddress ↔ ∀ (t : FileTree) (inode : Nat), ¬ t.RefusesLength address inode := by
  have hbind := ((Utf8.encodeEscaping?_eq_ok_iff address octets).1 hoctets).2
  simp only [FitsAddress, FileTree.RefusesLength, FileTree.socketAt_eq_addressTooLong_iff,
    FileTree.bind_eq_addressTooLong_iff, hoctets, Except.ok.injEq, exists_eq_left', ← hbind]
  constructor
  · intro hshort _ _
    split_ifs <;> omega
  · intro h
    have := h { entries := [] } 0
    omega

end Text

/-! ### Texts of paths -/

namespace Path

theorem length_rootOf_le (text : Text) :
    (rootOf text).toText.length ≤ (text.takeWhile (· = slash)).length := by
  rw [rootOf]
  split
  · exact Nat.zero_le _
  · rename_i h
    rw [h]
    decide
  · rename_i hsome _
    exact Nat.one_le_iff_ne_zero.2 hsome

/-- The slashes in front of a text are none of its names. -/
theorem sum_names_le (text : Text) :
    ((ofText text).names.map fun name => name.length + 1).sum
      + (text.takeWhile (· = slash)).length ≤ text.length + 1 := by
  induction text with
  | nil => decide
  | cons c text ih =>
    by_cases hc : c = slash
    -- in front of this slash stands an empty name, which is dropped
    · have hnames : (ofText (c :: text)).names = (ofText text).names := by
        simp [ofText, Text.splitOn_cons, hc]
      rw [hnames, List.takeWhile_cons_of_pos (by simpa using hc), List.length_cons,
        List.length_cons]
      omega
    · have hnames : ((ofText (c :: text)).names.map fun name => name.length + 1).sum
          ≤ ((Text.splitOn slash (c :: text)).map fun piece => piece.length + 1).sum :=
        (List.filter_sublist.map _).sum_le_sum fun _ _ => Nat.zero_le _
      rw [Text.sum_splitOn] at hnames
      rw [List.takeWhile_cons_of_neg (by simpa using hc)]
      exact hnames

theorem ofText_name {name : Text} (hne : name ≠ []) (hdot : name ≠ ("." : Text))
    (hslash : slash ∉ name) : ofText name = { root := .relative, names := [name] } := by
  have hroot : name.takeWhile (· = slash) = [] := by
    obtain ⟨c, rest, rfl⟩ := List.exists_cons_of_ne_nil hne
    have hc : c ≠ slash := fun hc => hslash (hc ▸ List.mem_cons_self)
    exact List.takeWhile_cons_of_neg (by simpa using hc)
  have hsplit : Text.splitOn slash name = [name] := by
    rw [Text.splitOn_eq, List.splitOn_eq_singleton hslash]
  simp [ofText, rootOf, hroot, hsplit, hne, hdot]

theorem eq_slash_of_mem_root {root : Root} {c : CodePoint} (h : c ∈ root.toText) : c = slash := by
  have hall : root.toText.all (· = slash) = true := by cases root <;> decide
  simpa using List.all_eq_true.1 hall c h

theorem toText_join_name (directory : Path) {name : Text} :
    (directory.join { root := .relative, names := [name] }).toText
      = directory.root.toText ++ Text.joined [slash] (directory.names ++ [name]) :=
  toText_of_names (by simp [join])

/-- **A name in a directory adds a slash and itself**, at most, to the text of the directory. -/
theorem length_join_le (text : Text) (name : Text) :
    ((ofText text).join { root := .relative, names := [name] }).toText.length
      ≤ text.length + 1 + name.length := by
  have hroot := length_rootOf_le text
  have hnames := sum_names_le text
  have hsome : (ofText text).names ++ [name] ≠ [] := by simp
  -- each name counts with a slash, but there is none in front of the first one
  have hjoined := Text.length_joined slash hsome
  rw [List.map_append, List.sum_append, List.map_singleton, List.sum_singleton] at hjoined
  rw [toText_join_name, List.length_append]
  rw [show (ofText text).root = rootOf text from rfl]
  omega

theorem mem_of_mem_join {text name : Text} {c : CodePoint}
    (h : c ∈ ((ofText text).join { root := .relative, names := [name] }).toText) :
    c = slash ∨ c ∈ text ∨ c ∈ name := by
  rw [toText_join_name, List.mem_append] at h
  obtain hroot | hjoined := h
  · exact .inl (eq_slash_of_mem_root hroot)
  · obtain hslash | ⟨piece, hpiece, hc⟩ := Text.mem_of_mem_joined hjoined
    · exact .inl (List.mem_singleton.1 hslash)
    · obtain hdirectory | hname := List.mem_append.1 hpiece
      · exact .inr (.inl (Text.mem_of_mem_splitOn (List.mem_filter.1 hdirectory).1 hc))
      · rw [List.mem_singleton.1 hname] at hc
        exact .inr (.inr hc)

end Path

/-! ### The derived path -/

namespace Surroundings

/-- A code point that a shortened name is made of. -/
theorem ofHexDigit_ascii : ∀ d < 16, (CodePoint.ofHexDigit d).val < 0x80 ∧
    CodePoint.ofHexDigit d ≠ Path.slash := by
  decide

theorem hexDigest_ascii (message : Bytes) :
    ∀ c ∈ Sha256.hexDigest message, c.val < 0x80 ∧ c ≠ Path.slash := by
  intro c hc
  simp only [Sha256.hexDigest, Text.hex, List.mem_flatMap, List.mem_map] at hc
  obtain ⟨_, _, _, _, rfl⟩ := hc
  exact ofHexDigit_ascii _ (Nat.mod_lt _ (by decide))

theorem shortenedName_ascii (long : Text) :
    ∀ c ∈ shortenedName long, c.val < 0x80 ∧ c ≠ Path.slash := by
  have hends : (defaultProgramName ++ "_" ++ ".sock").all
      (fun c => c.val < 0x80 && c ≠ Path.slash) = true := by
    decide
  simp only [List.all_eq_true, Bool.and_eq_true, decide_eq_true_eq] at hends
  intro c hc
  rw [shortenedName, List.mem_append, List.mem_append] at hc
  obtain (hname | hdigest) | hsuffix := hc
  · exact hends c (List.mem_append_left _ hname)
  · exact hexDigest_ascii _ c (List.mem_of_mem_take hdigest)
  · exact hends c (List.mem_append_right _ hsuffix)

theorem length_shortenedName_le (long : Text) : (shortenedName long).length ≤ 33 := by
  have hdigest := List.length_take_le 16 (Sha256.hexDigest (Utf8.encodeReplacing long))
  have hname : (defaultProgramName ++ "_").length = 12 := by decide
  have hsuffix : (".sock" : Text).length = 5 := by decide
  rw [shortenedName, List.length_append, List.length_append]
  omega

theorem ofText_shortenedName (long : Text) :
    Path.ofText (shortenedName long)
      = { root := .relative, names := [shortenedName long] } := by
  have hlength : 17 ≤ (shortenedName long).length := by
    have hname : (defaultProgramName ++ "_").length = 12 := by decide
    have hsuffix : (".sock" : Text).length = 5 := by decide
    rw [shortenedName, List.length_append, List.length_append]
    omega
  refine Path.ofText_name ?_ ?_ ?_
  · intro hnone
    rw [hnone] at hlength
    simp at hlength
  · intro hdot
    rw [hdot] at hlength
    revert hlength
    decide
  · intro hslash
    exact (shortenedName_ascii long _ hslash).2 rfl

/-- **A shortened path fits** where the directory for temporary files is short and in ASCII. -/
theorem shortened_fitsAddress (s : Surroundings) (hascii : ∀ c ∈ s.temporary, c.val < 0x80)
    (hshort : s.temporary.length ≤ 56) (long : Text) :
    ((Path.ofText s.temporary).join (Path.ofText (shortenedName long))).toText.FitsAddress := by
  rw [ofText_shortenedName]
  apply Text.fitsAddress_of_ascii
  · intro c hc
    obtain rfl | htemporary | hname := Path.mem_of_mem_join hc
    · decide
    · exact hascii c htemporary
    · exact (shortenedName_ascii long c hname).1
  · have hjoin := Path.length_join_le s.temporary (shortenedName long)
    have hname := length_shortenedName_le long
    have hroom : 56 + 1 + 33 ≤ FileTree.longestAddress := by decide
    omega

/-- The path of a program that is named, where the directory for its socket is known. -/
theorem socketPath_eq {s : Surroundings} {name : Text} (hname : name ≠ []) {directory : Path}
    (h : s.runtimeDirectory = .ok directory) :
    s.socketPath (some name) =
      let plain := directory.join (Path.ofText (name ++ ".sock"))
      .ok (if longestSocketPath < plain.toText.length then
          (Path.ofText s.temporary).join (Path.ofText (shortenedName plain.toText))
        else plain) := by
  obtain ⟨c, rest, rfl⟩ := List.exists_cons_of_ne_nil hname
  rw [socketPath, h]
  dsimp only [bind, Except.bind, nameOf]
  split_ifs <;> rfl

/-- **Which derived paths fit.**  Take a program with a name, a runtime directory, and a directory
for temporary files that is in ASCII and has 56 characters at most.  Then there is a path for its
socket, and

* it fits exactly if the plain path, the name with its suffix in the runtime directory, is shortened
  for its code points, or else has octets and they are not too many;
* it fits in particular if the plain path is in ASCII;
* if it has octets, it fits exactly if no bind and no connection is refused for its length. -/
theorem socketPath_fits_exactly (s : Surroundings) {name : Text} (hname : name ≠ [])
    (hascii : ∀ c ∈ s.temporary, c.val < 0x80) (hshort : s.temporary.length ≤ 56)
    {directory : Path} (h : s.runtimeDirectory = .ok directory) :
    let plain := (directory.join (Path.ofText (name ++ ".sock"))).toText
    ∃ path, s.socketPath (some name) = .ok path ∧
      (path.toText.FitsAddress ↔
        (plain.length ≤ longestSocketPath →
          (∀ c ∈ plain, (! c.isSurrogate || Utf8.isEscape c) = true) ∧
            plain.length + (plain.map Utf8.surplus).sum ≤ FileTree.longestAddress)) ∧
      ((∀ c ∈ plain, c.val < 0x80) → path.toText.FitsAddress) ∧
      ∀ octets, Utf8.encodeEscaping? path.toText = .ok octets →
        (path.toText.FitsAddress ↔
          ∀ (t : FileTree) (inode : Nat), ¬ t.RefusesLength path.toText inode) := by
  intro plain
  refine ⟨_, socketPath_eq hname h, ?_, ?_, fun _ => Text.fitsAddress_iff_not_refusesLength⟩
  · change (Path.toText (if longestSocketPath < plain.length then _ else _)).FitsAddress ↔ _
    split_ifs with hlong
    · refine iff_of_true (s.shortened_fitsAddress hascii hshort _) fun hle => ?_
      exact absurd hlong (Nat.not_lt.2 hle)
    · rw [Text.fitsAddress_iff]
      exact ⟨fun hfits _ => hfits, fun hfits => hfits (by omega)⟩
  · intro hplain
    change (Path.toText (if longestSocketPath < plain.length then _ else _)).FitsAddress
    split_ifs with hlong
    · exact s.shortened_fitsAddress hascii hshort _
    · have hroom : longestSocketPath ≤ FileTree.longestAddress := by decide
      exact Text.fitsAddress_of_ascii hplain (Nat.le_trans (Nat.not_lt.1 hlong) hroom)

theorem bare_temporary_ascii : ∀ c ∈ bare.temporary, c.val < 0x80 := by
  have hall : bare.temporary.all (·.val < 0x80) = true := by decide
  simpa using hall

/-- A name of 40 letters with an accent: the path has 50 code points and 90 octets. -/
theorem accented_socketPath_fits :
    let name : Text := List.replicate 40 0xE9
    ∃ path, bare.socketPath (some name) = .ok path ∧ path.toText.FitsAddress := by
  intro name
  have hname : name ≠ [] := by decide
  have hdirectory : bare.runtimeDirectory = .ok (Path.ofText bare.temporary) := rfl
  obtain ⟨path, hpath, hfits, -⟩ :=
    bare.socketPath_fits_exactly hname bare_temporary_ascii (by decide) hdirectory
  have hplain : ((Path.ofText bare.temporary).join (Path.ofText (name ++ ".sock"))).toText
      = "/tmp/" ++ name ++ ".sock" := by
    decide +kernel
  refine ⟨path, hpath, hfits.2 fun _ => ?_⟩
  rw [hplain]
  refine ⟨?_, by decide +kernel⟩
  exact List.all_eq_true.1 (by decide +kernel :
    ("/tmp/" ++ name ++ ".sock").all (fun c => ! c.isSurrogate || Utf8.isEscape c) = true)

/-- **A derived path that no address can be**: the name has 60 letters with an accent, neither a
slash nor a zero, the runtime directory is there, and the directory for temporary files is short and
in ASCII.  No bind and no connection succeeds, whatever lies in the tree. -/
theorem accented_socketPath_refused :
    let name : Text := List.replicate 60 0xE9
    name ≠ [] ∧ Path.slash ∉ name ∧ 0 ∉ name ∧
      (∀ c ∈ bare.temporary, c.val < 0x80) ∧ bare.temporary.length ≤ 56 ∧
      bare.runtimeDirectory = .ok (Path.ofText bare.temporary) ∧
      ∃ path octets, bare.socketPath (some name) = .ok path ∧ path.toText.length = 70 ∧
        Utf8.encodeEscaping? path.toText = .ok octets ∧ octets.length = 130 ∧
        ∀ (t : FileTree) (inode : Nat), t.socketAt path.toText = .error .addressTooLong ∧
          Binding.bind t path.toText inode
            = .error (.control (.unbindable path.toText .addressTooLong)) := by
  intro name
  have hplain : ((Path.ofText bare.temporary).join (Path.ofText (name ++ ".sock"))).toText
      = "/tmp/" ++ name ++ ".sock" := by
    decide +kernel
  have hoctets : Utf8.encodeEscaping? ("/tmp/" ++ name ++ ".sock")
      = .ok (Utf8.encodeEscaping ("/tmp/" ++ name ++ ".sock")) := by
    decide +kernel
  have hlength : (Utf8.encodeEscaping ("/tmp/" ++ name ++ ".sock")).length = 130 := by
    decide +kernel
  refine ⟨by decide, by decide, by decide, bare_temporary_ascii, by decide, rfl,
    (Path.ofText bare.temporary).join (Path.ofText (name ++ ".sock")),
    Utf8.encodeEscaping ("/tmp/" ++ name ++ ".sock"), by decide +kernel, ?_⟩
  rw [hplain]
  refine ⟨by decide, hoctets, hlength, fun t inode => ?_⟩
  rw [FileTree.socketAt_eq_addressTooLong_iff, FileTree.bind_eq_addressTooLong_iff, hlength]
  exact ⟨⟨_, hoctets, by rw [hlength]; decide⟩, by decide⟩

end Surroundings

end ControlChannel
