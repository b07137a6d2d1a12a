import ControlChannel.Listener.Binding
import ControlChannel.Proofs.FileTreeGrowth
import ControlChannel.Proofs.SplitTexts
import Mathlib.Data.List.TakeWhile

/-!
# A path names the socket that was bound there

* `Path.mem_toText` — a path keeps the code points of its text, slashes and dots apart;
* `FileTree.checkText_eq_ok_iff` — which texts the system takes for paths;
* `FileTree.Names` — a socket file **lies at a path, and connections to the path reach it**;
* `Binding.bind_names`, `Binding.bind_of_names` — a path names what was bound there, and nothing
  else can be bound until it is removed;
* `Binding.remove_names` — after a removal it names nothing.
-/

namespace ControlChannel

/-! ### The code points of a path -/

/-- The code points of a text that is read as a path are in the text of the path, slashes and dots
apart. -/
theorem Path.mem_toText {text : Text} {c : CodePoint} (h : c ∈ text) :
    c = slash ∨ c = 0x2E ∨ c ∈ (ofText text).toText := by
  by_cases hslash : c = slash
  · exact .inl hslash
  · obtain ⟨piece, hpiece, hc⟩ := Text.mem_splitOn_of_mem hslash h
    by_cases hdot : piece = ("." : Text)
    · rw [hdot, show (("." : String) : Text) = [0x2E] from rfl] at hc
      exact .inr (.inl (List.mem_singleton.1 hc))
    · have hname : piece ∈ (ofText text).names := by
        refine List.mem_filter.2 ⟨hpiece, ?_⟩
        have hfilled : piece ≠ [] := List.ne_nil_of_mem hc
        simp [hfilled, hdot]
      refine .inr (.inr ?_)
      have hjoined : c ∈ (ofText text).root.toText ++ Text.joined [slash] (ofText text).names :=
        List.mem_append_right _ (Text.mem_joined_of_mem hname hc)
      unfold toText
      split
      · rename_i hnames
        rw [hnames] at hname
        cases hname
      · exact hjoined

/-- A text of any origin has octets exactly when each of its surrogates stands for one. -/
theorem Utf8.encodeEscaping?_eq_ok_iff (text : Text) (bytes : Bytes) :
    encodeEscaping? text = .ok bytes ↔
      (∀ c ∈ text, (! c.isSurrogate || isEscape c) = true) ∧ bytes = encodeEscaping text := by
  have hnil : text.dropWhile (fun c => ! c.isSurrogate || isEscape c) = [] ↔
      ∀ c ∈ text, (! c.isSurrogate || isEscape c) = true := List.dropWhile_eq_nil_iff
  rw [encodeEscaping?, ← hnil]
  split
  · rename_i hnone
    rw [hnone]
    constructor
    · intro h
      cases h
      exact ⟨rfl, rfl⟩
    · rintro ⟨_, rfl⟩
      rfl
  · rename_i hsome
    constructor
    · intro h
      cases h
    · rintro ⟨h, _⟩
      exact absurd h hsome

namespace FileTree

/-- A code point that a path may hold: it has octets, and none of them is zero. -/
def Speakable (c : CodePoint) : Prop :=
  (! c.isSurrogate || Utf8.isEscape c) = true ∧ 0 ∉ Utf8.encodeEscaping [c]

theorem mem_encodeEscaping {text : Text} {b : UInt8} :
    b ∈ Utf8.encodeEscaping text ↔ ∃ c ∈ text, b ∈ Utf8.encodeEscaping [c] := by
  simp [Utf8.encodeEscaping]

/-- The system takes a text for a path exactly if it may hold its code points and it is not too
long. -/
theorem checkText_eq_ok_iff (text : Text) :
    checkText text = .ok () ↔
      (∀ c ∈ text, Speakable c) ∧ (Utf8.encodeEscaping text).length ≤ longestPath := by
  unfold checkText
  cases hoctets : Utf8.encodeEscaping? text with
  | error fault =>
    constructor
    · intro h
      cases h
    · rintro ⟨h, _⟩
      rw [(Utf8.encodeEscaping?_eq_ok_iff text _).2 ⟨fun c hc => (h c hc).1, rfl⟩] at hoctets
      cases hoctets
  | ok octets =>
    obtain ⟨hescape, rfl⟩ := (Utf8.encodeEscaping?_eq_ok_iff text octets).1 hoctets
    dsimp only
    split_ifs with hzero hlong
    · constructor
      · intro h
        cases h
      · rintro ⟨h, _⟩
        rw [List.contains_iff_mem, mem_encodeEscaping] at hzero
        obtain ⟨c, hc, hmem⟩ := hzero
        exact absurd hmem (h c hc).2
    · constructor
      · intro h
        cases h
      · rintro ⟨_, h⟩
        omega
    · refine ⟨fun _ => ⟨fun c hc => ⟨hescape c hc, fun hmem => hzero ?_⟩, by omega⟩, fun _ => rfl⟩
      rw [List.contains_iff_mem, mem_encodeEscaping]
      exact ⟨c, hc, hmem⟩

theorem Speakable.ne_zero {c : CodePoint} (h : Speakable c) : c ≠ 0 := by
  rintro rfl
  exact h.2 (by decide)

/-- The system takes a text if it takes the path that is read from it, and the text is not too
long. -/
theorem speakable_of_locate {t : FileTree} {text : Text} {place : Place}
    (h : t.locate (Path.ofText text) = .ok place) : ∀ c ∈ text, Speakable c := by
  obtain ⟨hcheck, -⟩ := lead_eq_ok_iff.1 h
  intro c hc
  obtain rfl | rfl | hmem := Path.mem_toText hc
  · exact ⟨by decide, by decide⟩
  · exact ⟨by decide, by decide⟩
  · exact ((checkText_eq_ok_iff _).1 hcheck).1 c hmem

/-- The path names a socket: its file lies there, and the address leads to it. -/
structure Names (t : FileTree) (path : Text) (inode : Nat) : Prop where
  node : t.node (Path.ofText path) = .ok (.socket inode)
  address : t.socketAt path = .ok inode

/-- A path that names a socket names it still where nothing was taken away. -/
theorem Names.extends {t t' : FileTree} {path : Text} {inode : Nat} (h : t.Names path inode)
    (hextends : Extends t t') : t'.Names path inode :=
  ⟨hextends.node h.node, hextends.socketAt h.address⟩

theorem Names.target {t : FileTree} {path : Text} {inode : Nat} (h : t.Names path inode) :
    t.target (Path.ofText path) = .ok (.socket inode) :=
  target_of_node h.node fun _ hlink => by cases hlink

/-- A path names one socket at most. -/
theorem Names.unique {t : FileTree} {path : Text} {inode other : Nat} (h : t.Names path inode)
    (h' : t.Names path other) : inode = other := by
  have hboth := h.address.symm.trans h'.address
  rw [Except.ok.injEq] at hboth
  exact hboth

end FileTree

namespace Binding

open FileTree

/-- What lets a socket be bound: its address is short enough, nothing lies at the path, and the
text does not ask for a directory. -/
theorem bind_eq_ok {t t' : FileTree} {path : Text} {inode : Nat}
    (h : bind t path inode = .ok t') :
    ∃ place, t.locate (Path.ofText path) = .ok place ∧ t.get? place = none ∧
      (Utf8.encodeEscaping path).length ≤ longestAddress ∧ Path.asksDirectory path = false ∧
      t' = t.put place (.socket inode) := by
  unfold bind at h
  by_cases hlong : longestAddress < (Utf8.encodeEscaping path).length
  · rw [if_pos hlong] at h
    cases h
  · rw [if_neg hlong] at h
    cases hlocate : t.locate (Path.ofText path) with
    | error fault =>
      rw [hlocate] at h
      cases h
    | ok place =>
      rw [hlocate] at h
      dsimp only at h
      split_ifs at h with hplace hdirectory
      cases h
      refine ⟨place, rfl, ?_, by omega, Bool.eq_false_iff.2 hdirectory, rfl⟩
      exact Option.not_isSome_iff_eq_none.1 hplace

/-- **A path names the socket that was bound there.** -/
theorem bind_names {t t' : FileTree} {path : Text} {inode : Nat}
    (h : bind t path inode = .ok t') : t'.Names path inode := by
  obtain ⟨place, hlocate, hplace, hshort, hdirectory, rfl⟩ := bind_eq_ok h
  have hnode : (t.put place (.socket inode)).node (Path.ofText path) = .ok (.socket inode) :=
    node_eq_ok_iff.2 ⟨place, (put_extends hplace _).locate hlocate,
      get?_put_self (inside_of_get?_eq_none hplace) t _⟩
  have htarget := target_of_node hnode fun _ hlink => by cases hlink
  have hspeakable := speakable_of_locate hlocate
  have htake : path.takeWhile (· ≠ 0) = path := by
    rw [List.takeWhile_eq_self_iff]
    intro c hc
    simpa using (hspeakable c hc).ne_zero
  have hreach : (t.put place (.socket inode)).reach path = .ok (.socket inode) := by
    have hcheck : checkText path = .ok () := by
      refine (checkText_eq_ok_iff path).2 ⟨hspeakable, Nat.le_trans hshort ?_⟩
      decide
    unfold reach
    rw [hcheck, htarget]
    show (if Path.asksDirectory path then _ else _) = _
    rw [hdirectory]
    rfl
  have hnamed : ¬ path.head? = some 0 := by
    intro hhead
    exact (hspeakable 0 (List.mem_of_mem_head? hhead)).ne_zero rfl
  refine ⟨hnode, ?_⟩
  unfold socketAt
  rw [(Utf8.encodeEscaping?_eq_ok_iff path _).2 ⟨fun c hc => (hspeakable c hc).1, rfl⟩, htake]
  dsimp only [Except.mapError, Bind.bind, Except.bind]
  rw [if_neg hnamed, if_neg (Nat.not_lt.2 hshort), if_neg hnamed, hreach]

/-- Where a path names a socket, no other one is bound. -/
theorem bind_of_names {t : FileTree} {path : Text} {inode : Nat} (h : t.Names path inode)
    (other : Nat) : ∃ failure, bind t path other = .error failure := by
  obtain ⟨place, hlocate, hplace⟩ := node_eq_ok_iff.1 h.node
  cases hbind : bind t path other with
  | error failure => exact ⟨failure, rfl⟩
  | ok t' =>
    obtain ⟨here, hhere, hnone, _⟩ := bind_eq_ok hbind
    rw [hlocate, Except.ok.injEq] at hhere
    rw [← hhere, hplace] at hnone
    cases hnone

/-- **After a removal the path names no socket.** -/
theorem remove_names (t : FileTree) (path : Text) (inode : Nat) :
    ¬ (remove t path).Names path inode := by
  intro h
  have hnode := h.node
  unfold remove at hnode
  cases hlocate : t.locate (Path.ofText path) with
  | error fault =>
    rw [hlocate] at hnode
    obtain ⟨place, hplace, _⟩ := node_eq_ok_iff.1 hnode
    rw [hlocate] at hplace
    cases hplace
  | ok place =>
    rw [hlocate] at hnode
    obtain ⟨here, hhere, hlies⟩ := node_eq_ok_iff.1 hnode
    have hsame := (erase_extends t place).locate hhere
    rw [hlocate, Except.ok.injEq] at hsame
    rw [← hsame] at hlies
    by_cases inside : Inside place
    · rw [get?_erase_self inside] at hlies
      cases hlies
    · rw [get?, if_pos (by simpa [Inside] using inside)] at hlies
      cases hlies

end Binding

end ControlChannel
