import ControlChannel.FileTree.Creation
import ControlChannel.Proofs.PathWalks

/-!
# What paths lead to while a file tree grows

* `FileTree.get?_put_self`, `FileTree.get?_erase_self` — what lies at a place after a change;
* `FileTree.Extends` — a tree with **all that lies in another one, where it lies there**;
* `FileTree.Extends.node`, `FileTree.Extends.socketAt` — what a path leads to stays there;
* `FileTree.KeepsWays.locate`, `FileTree.erase_keepsWays` — a path keeps its place where nothing is
  taken away but a socket;
* `FileTree.node_of_erased` — once its end is taken away, a path leads to nothing;
* `FileTree.Houses`, `FileTree.makeParents_houses` — making directories **adds directories and nothing
  else**;
* `FileTree.lt_freshInode` — a fresh inode is above that of every socket.
-/

namespace ControlChannel

namespace FileTree

/-! ### Places -/

/-- Whether a place lies in the tree at all: not so the working directory and those above it,
which are always directories. -/
def Inside (place : Place) : Prop := place.names.all (· = back) = false

theorem lookup_filter (entries : List (Place × Node)) (place other : Place) :
    (entries.filter (·.1 ≠ place)).lookup other
      = if other = place then none else entries.lookup other := by
  induction entries with
  | nil => split_ifs <;> rfl
  | cons entry entries ih =>
    obtain ⟨here, node⟩ := entry
    by_cases hhere : here = place
    · rw [List.filter_cons_of_neg (by simpa using hhere), ih]
      split_ifs with hother
      · rfl
      · have hbeq : (other == here) = false := by
          rw [hhere]
          exact beq_false_of_ne hother
        rw [List.lookup_cons, hbeq]
    · rw [List.filter_cons_of_pos (by simpa using hhere), List.lookup_cons, List.lookup_cons, ih]
      cases hbeq : other == here with
      | false => rfl
      | true =>
        have hother : other ≠ place := by
          rw [eq_of_beq hbeq]
          exact hhere
        rw [if_neg hother, if_neg hother]

theorem get?_erase_self {place : Place} (inside : Inside place) (t : FileTree) :
    (t.erase place).get? place = none := by
  rw [get?, if_neg (by rw [inside]; decide), erase, lookup_filter, if_pos rfl]

theorem get?_erase_other (t : FileTree) {place other : Place} (h : other ≠ place) :
    (t.erase place).get? other = t.get? other := by
  unfold get?
  split_ifs with houtside
  · rfl
  · rw [erase, lookup_filter, if_neg h]

theorem get?_put_self {place : Place} (inside : Inside place) (t : FileTree) (node : Node) :
    (t.put place node).get? place = some node := by
  rw [get?, if_neg (by rw [inside]; decide), put, erase, List.lookup_append, lookup_filter,
    if_pos rfl, List.lookup_cons, beq_self_eq_true]
  rfl

theorem get?_put_other (t : FileTree) {place other : Place} (h : other ≠ place) (node : Node) :
    (t.put place node).get? other = t.get? other := by
  unfold get?
  split_ifs with houtside
  · rfl
  · rw [put, erase, List.lookup_append, lookup_filter, if_neg h, List.lookup_cons,
      beq_false_of_ne h, List.lookup_nil, Option.or_none]

/-- Where no directory lies, there is a place inside the tree. -/
theorem inside_of_get?_ne {t : FileTree} {place : Place} (h : t.get? place ≠ some .directory) :
    Inside place := by
  unfold get? at h
  split_ifs at h with houtside
  · exact absurd rfl h
  · exact Bool.eq_false_iff.2 houtside

theorem inside_of_get?_eq_none {t : FileTree} {place : Place} (h : t.get? place = none) :
    Inside place := inside_of_get?_ne (by rw [h]; exact nofun)

/-! ### Trees that hold all that another one holds -/

/-- All that lies in one tree lies in the other, at the same place. -/
def Extends (t t' : FileTree) : Prop :=
  ∀ place node, t.get? place = some node → t'.get? place = some node

theorem Extends.refl (t : FileTree) : Extends t t := fun _ _ h => h

theorem Extends.trans {t₁ t₂ t₃ : FileTree} (h : Extends t₁ t₂) (h' : Extends t₂ t₃) :
    Extends t₁ t₃ := fun place node hnode => h' place node (h place node hnode)

theorem put_extends {t : FileTree} {place : Place} (h : t.get? place = none) (node : Node) :
    Extends t (t.put place node) := by
  intro other node' hnode
  have hother : other ≠ place := by
    rintro rfl
    rw [h] at hnode
    cases hnode
  rw [get?_put_other t hother, hnode]

theorem erase_extends (t : FileTree) (place : Place) : Extends (t.erase place) t := by
  intro other node hnode
  by_cases hother : other = place
  · unfold get? at hnode ⊢
    split_ifs at hnode ⊢
    · exact hnode
    · rw [erase, lookup_filter, if_pos hother] at hnode
      cases hnode
  · rw [← get?_erase_other t hother, hnode]

/-- A path leads to the same place in a tree that keeps the ways of the first one. -/
theorem KeepsWays.locate {t t' : FileTree} (h : KeepsWays t t') {path : Path} {place : Place}
    (hlocate : t.locate path = .ok place) : t'.locate path = .ok place := by
  obtain ⟨hcheck, hwalks⟩ := lead_eq_ok_iff.1 hlocate
  exact lead_eq_ok_iff.2 ⟨hcheck, hwalks.of_ways h nofun⟩

theorem Extends.keepsWays {t t' : FileTree} (h : Extends t t') : KeepsWays t t' :=
  ⟨fun place hplace => h place .directory hplace, fun place _ hplace => h place _ hplace⟩

theorem Extends.locate {t t' : FileTree} (h : Extends t t') {path : Path} {place : Place}
    (hlocate : t.locate path = .ok place) : t'.locate path = .ok place :=
  h.keepsWays.locate hlocate

/-- No way leads through a socket. -/
theorem erase_keepsWays {t : FileTree} {place : Place} {inode : Nat}
    (h : t.get? place = some (.socket inode)) : KeepsWays t (t.erase place) := by
  have hother : ∀ other node, t.get? other = some node → node ≠ .socket inode →
      (t.erase place).get? other = some node := by
    intro other node hnode hne
    rw [get?_erase_other t, hnode]
    rintro rfl
    rw [h, Option.some.injEq] at hnode
    exact hne hnode.symm
  exact ⟨fun other hnode => hother other _ hnode nofun,
    fun other _ hnode => hother other _ hnode nofun⟩

/-- A node is found exactly if a place is found where it lies. -/
theorem found_eq_ok_iff {t : FileTree} {found : Except OsFault Place} {node : Node} :
    (do
      let place ← found
      match t.get? place with
      | some node => Except.ok node
      | none => Except.error OsFault.noEntry) = .ok node ↔
      ∃ place, found = .ok place ∧ t.get? place = some node := by
  cases found with
  | error fault =>
    constructor
    · intro h
      cases h
    · rintro ⟨place, h, _⟩
      cases h
  | ok place =>
    show (match t.get? place with
      | some node => Except.ok node
      | none => Except.error OsFault.noEntry) = .ok node ↔ _
    cases hplace : t.get? place with
    | none =>
      constructor
      · intro h
        cases h
      · rintro ⟨other, hother, hnode⟩
        cases hother
        rw [hplace] at hnode
        cases hnode
    | some lying =>
      constructor
      · intro h
        cases h
        exact ⟨place, rfl, hplace⟩
      · rintro ⟨other, hother, hnode⟩
        cases hother
        rw [hplace] at hnode
        cases hnode
        rfl

theorem node_eq_ok_iff {t : FileTree} {path : Path} {node : Node} :
    t.node path = .ok node ↔ ∃ place, t.locate path = .ok place ∧ t.get? place = some node :=
  found_eq_ok_iff

/-- Nothing lies at a path that leads to an empty place. -/
theorem node_of_empty {t : FileTree} {path : Path} {place : Place}
    (hlocate : t.locate path = .ok place) (hempty : t.get? place = none) :
    t.node path = .error .noEntry := by
  unfold node
  rw [hlocate]
  dsimp only [bind, Except.bind]
  rw [hempty]

theorem target_eq_ok_iff {t : FileTree} {path : Path} {node : Node} :
    t.target path = .ok node ↔ ∃ place, t.resolve path = .ok place ∧ t.get? place = some node :=
  found_eq_ok_iff

/-- **What a path leads to stays there** in a tree that extends the first one. -/
theorem Extends.node {t t' : FileTree} (h : Extends t t') {path : Path} {node : Node}
    (hnode : t.node path = .ok node) : t'.node path = .ok node := by
  obtain ⟨place, hlocate, hplace⟩ := node_eq_ok_iff.1 hnode
  exact node_eq_ok_iff.2 ⟨place, h.locate hlocate, h place node hplace⟩

/-- Where what a walk ends at is taken away, it ends at nothing, or does not get there. -/
theorem walk_erased {t : FileTree} {links : Nat} {here place : Place} {names : List Text}
    (inside : Inside place) (h : Walks t false links here names place) :
    (t.erase place).walk false links here names = .ok place ∨
      (t.erase place).walk false links here names = .error .noEntry := by
  induction h with
  | ended _ => exact .inl (walk_nil nofun)
  | @entered _ here last _ _ directory short _ ih =>
    by_cases hhere : here = last
    · rw [hhere]
      exact .inr (walk_missing (get?_erase_self inside t))
    · rw [walk_entered (by rw [get?_erase_other t hhere, directory]) short]
      exact ih inside
  | @followed _ here last _ names link onward _ ih =>
    by_cases hhere : here = last
    · obtain hthrough | hnames := onward
      · cases hthrough
      · obtain ⟨name, names, rfl⟩ := List.exists_cons_of_ne_nil hnames
        rw [hhere]
        exact .inr (walk_missing (get?_erase_self inside t))
    · rw [walk_followed (by rw [get?_erase_other t hhere, link]) onward]
      exact ih inside

/-- **Once its end is taken away, a path leads to nothing.** -/
theorem node_of_erased {t : FileTree} {path : Path} {place : Place} (inside : Inside place)
    (hlocate : t.locate path = .ok place) : (t.erase place).node path = .error .noEntry := by
  obtain ⟨hcheck, hwalks⟩ := lead_eq_ok_iff.1 hlocate
  have hlead : (t.erase place).locate path = .ok place ∨
      (t.erase place).locate path = .error .noEntry := by
    unfold FileTree.locate lead
    rw [hcheck]
    exact walk_erased inside hwalks
  obtain hsame | hmissing := hlead
  · exact node_of_empty hsame (get?_erase_self inside t)
  · rw [node, hmissing]
    rfl

/-! ### Through links -/

/-- A path leads to its end, unless a link lies there. -/
theorem resolve_of_no_link {t : FileTree} {path : Path} {place : Place}
    (hlocate : t.locate path = .ok place) (hlink : ∀ next, t.get? place ≠ some (.link next)) :
    t.resolve path = .ok place := by
  obtain ⟨hcheck, hwalks⟩ := lead_eq_ok_iff.1 hlocate
  exact lead_eq_ok_iff.2 ⟨hcheck, hwalks.followed_end hlink⟩

/-- At the end of a path lies what the path leads to, or a link. -/
theorem locate_of_resolve {t : FileTree} {path : Path} {last : Place}
    (hresolve : t.resolve path = .ok last) :
    ∃ place, t.locate path = .ok place ∧
      (place = last ∨ ∃ next, t.get? place = some (.link next)) := by
  obtain ⟨hcheck, hwalks⟩ := lead_eq_ok_iff.1 hresolve
  obtain ⟨place, hunfollowed, hend⟩ := hwalks.unfollowed
  exact ⟨place, lead_eq_ok_iff.2 ⟨hcheck, hunfollowed⟩, hend⟩

/-- A node that is no link is what its path leads to through links. -/
theorem target_of_node {t : FileTree} {path : Path} {node : Node}
    (hnode : t.node path = .ok node) (hlink : ∀ next, node ≠ .link next) :
    t.target path = .ok node := by
  obtain ⟨place, hlocate, hplace⟩ := node_eq_ok_iff.1 hnode
  have hnolink : ∀ next, t.get? place ≠ some (.link next) := by
    intro next hnext
    rw [hplace, Option.some.injEq] at hnext
    exact hlink next hnext
  exact target_eq_ok_iff.2 ⟨place, resolve_of_no_link hlocate hnolink, hplace⟩

theorem Extends.resolve {t t' : FileTree} (h : Extends t t') {path : Path} {place : Place}
    {node : Node} (hresolve : t.resolve path = .ok place) (hplace : t.get? place = some node) :
    t'.resolve path = .ok place := by
  obtain ⟨hcheck, hwalks⟩ := lead_eq_ok_iff.1 hresolve
  refine lead_eq_ok_iff.2 ⟨hcheck, hwalks.of_ways h.keepsWays fun _ next hnext => ?_⟩
  rw [h place node hplace, ← hplace] at hnext
  exact hwalks.not_link next hnext

theorem Extends.target {t t' : FileTree} (h : Extends t t') {path : Path} {node : Node}
    (htarget : t.target path = .ok node) : t'.target path = .ok node := by
  obtain ⟨place, hresolve, hplace⟩ := target_eq_ok_iff.1 htarget
  exact target_eq_ok_iff.2 ⟨place, h.resolve hresolve hplace, h place node hplace⟩

theorem Extends.reach {t t' : FileTree} (h : Extends t t') {text : Text} {node : Node}
    (hreach : t.reach text = .ok node) : t'.reach text = .ok node := by
  unfold FileTree.reach at hreach ⊢
  cases hcheck : checkText text with
  | error fault =>
    rw [hcheck] at hreach
    cases hreach
  | ok _ =>
    rw [hcheck] at hreach
    cases htarget : t.target (Path.ofText text) with
    | error fault =>
      rw [htarget] at hreach
      cases hreach
    | ok found =>
      rw [htarget] at hreach
      rw [h.target htarget]
      exact hreach

/-- **An address leads to the same socket** in a tree that extends the first one. -/
theorem Extends.socketAt {t t' : FileTree} (h : Extends t t') {address : Text} {inode : Nat}
    (hsocket : t.socketAt address = .ok inode) : t'.socketAt address = .ok inode := by
  unfold FileTree.socketAt at hsocket ⊢
  cases hoctets : Utf8.encodeEscaping? address with
  | error fault =>
    rw [hoctets] at hsocket
    cases hsocket
  | ok octets =>
    rw [hoctets] at hsocket
    dsimp only [Except.mapError, bind, Except.bind] at hsocket ⊢
    split_ifs at hsocket ⊢
    cases hreach : t.reach (address.takeWhile (· ≠ 0)) with
    | error fault =>
      rw [hreach] at hsocket
      cases hsocket
    | ok node =>
      rw [hreach] at hsocket
      rw [h.reach hreach]
      exact hsocket

/-! ### Making directories -/

/-- The second tree is the first one with directories added where nothing lay. -/
def Houses (t t' : FileTree) : Prop :=
  ∀ place, t'.get? place = t.get? place ∨
    t.get? place = none ∧ t'.get? place = some .directory

theorem Houses.refl (t : FileTree) : Houses t t := fun _ => .inl rfl

theorem Houses.trans {t₁ t₂ t₃ : FileTree} (h : Houses t₁ t₂) (h' : Houses t₂ t₃) :
    Houses t₁ t₃ := by
  intro place
  obtain hsame | ⟨hnone, hmade⟩ := h' place
  · rw [hsame]
    exact h place
  · obtain hbefore | ⟨_, hthere⟩ := h place
    · exact .inr ⟨hbefore ▸ hnone, hmade⟩
    · rw [hthere] at hnone
      cases hnone

theorem Houses.extends {t t' : FileTree} (h : Houses t t') : Extends t t' := by
  intro place node hnode
  obtain hsame | ⟨hnone, _⟩ := h place
  · rw [hsame, hnode]
  · rw [hnone] at hnode
    cases hnode

/-- Whatever lies there that is no directory lay there before. -/
theorem Houses.iff_of_ne_directory {t t' : FileTree} (h : Houses t t') {place : Place} {node : Node}
    (hnode : node ≠ .directory) : t'.get? place = some node ↔ t.get? place = some node := by
  obtain hsame | ⟨hnone, hmade⟩ := h place
  · rw [hsame]
  · rw [hnone, hmade]
    exact iff_of_false (fun hdirectory => hnode (Option.some.inj hdirectory).symm) nofun

theorem put_houses {t : FileTree} {place : Place} (h : t.get? place = none) :
    Houses t (t.put place .directory) := by
  intro other
  by_cases hother : other = place
  · subst hother
    exact .inr ⟨h, get?_put_self (inside_of_get?_eq_none h) t _⟩
  · exact .inl (get?_put_other t hother _)

theorem makeDirectory_houses {t t' : FileTree} {path : Path} (h : t.makeDirectory path = .ok t') :
    Houses t t' := by
  unfold makeDirectory at h
  cases hlocate : t.locate path with
  | error fault =>
    rw [hlocate] at h
    cases h
  | ok place =>
    rw [hlocate] at h
    dsimp only [bind, Except.bind] at h
    cases hplace : t.get? place with
    | none =>
      rw [hplace] at h
      cases h
      exact put_houses hplace
    | some node =>
      rw [hplace] at h
      dsimp only at h
      split at h
      · cases h
        exact Houses.refl t
      · cases h

theorem makeDirectories_houses (t : FileTree) (path : Path) (n : Nat) :
    Houses t (t.makeDirectories path n).2 := by
  induction n with
  | zero => exact Houses.refl t
  | succ n ih =>
    unfold makeDirectories
    dsimp only
    split
    · exact makeDirectory_houses ‹_›
    · generalize t.makeDirectories path n = above at ih ⊢
      obtain ⟨result, above⟩ := above
      cases result with
      | error fault => exact ih
      | ok _ =>
        dsimp only
        split
        · exact ih.trans (makeDirectory_houses ‹_›)
        · exact ih
    · exact Houses.refl t

/-- **Making the directories of a path adds directories and nothing else**, also where it is
refused half-way. -/
theorem makeParents_houses (t : FileTree) (path : Path) : Houses t (t.makeParents path).2 :=
  makeDirectories_houses t path _

/-! ### Fresh inodes -/

theorem le_foldl {f : Nat → Place × Node → Nat} (grows : ∀ n entry, n ≤ f n entry)
    (entries : List (Place × Node)) (n : Nat) : n ≤ entries.foldl f n := by
  induction entries generalizing n with
  | nil => exact Nat.le_refl n
  | cons entry entries ih =>
    rw [List.foldl_cons]
    exact Nat.le_trans (grows n entry) (ih _)

/-- A count that grows past every socket ends above that of any socket that can be looked up. -/
theorem lt_foldl_of_lookup {f : Nat → Place × Node → Nat} (grows : ∀ n entry, n ≤ f n entry)
    (passes : ∀ n here inode, inode < f n (here, .socket inode)) {place : Place} {inode : Nat}
    (entries : List (Place × Node)) (n : Nat) (h : entries.lookup place = some (.socket inode)) :
    inode < entries.foldl f n := by
  induction entries generalizing n with
  | nil => cases h
  | cons entry entries ih =>
    rw [List.lookup_cons] at h
    rw [List.foldl_cons]
    split at h
    · obtain ⟨here, node⟩ := entry
      cases h
      exact Nat.lt_of_lt_of_le (passes n here inode) (le_foldl grows entries _)
    · exact ih _ h

/-- **A fresh inode is above that of every socket.** -/
theorem lt_freshInode {t : FileTree} {place : Place} {inode : Nat}
    (h : t.get? place = some (.socket inode)) : inode < t.freshInode := by
  unfold get? at h
  split_ifs at h with houtside
  · cases h
  · unfold freshInode
    refine lt_foldl_of_lookup (fun n entry => ?grows) (fun n here inode => ?passes) t.entries 0 h
    case grows =>
      split
      · exact Nat.le_max_left _ _
      · exact Nat.le_refl n
    case passes => exact Nat.lt_of_lt_of_le (Nat.lt_succ_self inode) (Nat.le_max_right n _)

end FileTree

end ControlChannel
