import ControlChannel.Proofs.CleanPaths
import ControlChannel.Proofs.LivePeer

/-!
# A start that fails

A start looks at the place that its path names, removes a socket there that nothing answers on,
makes the directories above it and binds.  Whatever stops it, what lies in the tree stays as it was.
The place is read from a `Path`, while the address is the text itself.  The two agree for every text
of a clean path; only a text that ends in a separator misfits.

* `FileTree.makeParents_of_locate` — where something lies, the directories above it are there
  already;
* `Binding.Misfits`, `Binding.not_misfits_toText` — a text that asks for a directory where a socket
  lies, which no text of a clean path does;
* `Binding.start_of_removal` — a start that removes a socket binds, unless its text misfits;
* `Binding.Fails`, `Binding.fails_of_start` — all ways in which a start fails;
* `Binding.control_of_start` — what a start meets of the control channel;
* `Site.failed_start_keeps` — **a start that fails changes nothing**;
* `Site.start_of_misfit` — and what one under a text that misfits does.
-/

namespace ControlChannel

namespace FileTree

/-- A text that begins another one that the system takes is taken. -/
theorem checkText_of_append {text rest : Text} (h : checkText (text ++ rest) = .ok ()) :
    checkText text = .ok () := by
  obtain ⟨hspeakable, hshort⟩ := (checkText_eq_ok_iff _).1 h
  refine (checkText_eq_ok_iff _).2 ⟨fun c hc => hspeakable c (List.mem_append_left _ hc), ?_⟩
  refine Nat.le_trans ?_ hshort
  simp [Utf8.encodeEscaping]

/-- **What a path leads to lies in a directory**, which the path without its last name leads to. -/
theorem parent_of_locate {t : FileTree} {path : Path} {place : Place}
    (h : t.locate path = .ok place) (hparent : path.parent.names ≠ []) :
    t.target path.parent = .ok .directory := by
  obtain ⟨hcheck, hwalks⟩ := lead_eq_ok_iff.1 h
  have hnames : path.names ≠ [] := by
    rintro hnone
    exact hparent (by rw [Path.parent, hnone]; rfl)
  rw [← List.dropLast_append_getLast hnames] at hwalks
  obtain ⟨above, habove, hdirectory⟩ := hwalks.above
  rw [Path.toText_concat hnames, if_neg hparent] at hcheck
  exact target_eq_ok_iff.2
    ⟨above, lead_eq_ok_iff.2 ⟨checkText_of_append hcheck, habove⟩, hdirectory⟩

/-- A directory that a path leads to is there already. -/
theorem makeDirectory_of_target {t : FileTree} {path : Path}
    (h : t.target path = .ok .directory) : t.makeDirectory path = .ok t := by
  obtain ⟨last, hresolve, hdirectory⟩ := target_eq_ok_iff.1 h
  obtain ⟨place, hlocate, hend⟩ := locate_of_resolve hresolve
  obtain ⟨node, hnode⟩ : ∃ node, t.get? place = some node := by
    obtain rfl | ⟨next, hlink⟩ := hend
    · exact ⟨_, hdirectory⟩
    · exact ⟨_, hlink⟩
  unfold makeDirectory
  rw [hlocate]
  dsimp only [bind, Except.bind]
  rw [hnode, h]

/-- **No directories are made where something lies**: all of them are there. -/
theorem makeParents_of_locate {t : FileTree} {path : Path} {place : Place}
    (h : t.locate path = .ok place) : t.makeParents path = (.ok (), t) := by
  unfold makeParents
  cases hlength : path.names.length - 1 with
  | zero => rfl
  | succ n =>
    have hparent : path.parent.names = path.names.take (n + 1) := by
      rw [Path.parent, List.dropLast_eq_take, hlength]
    have hsome : path.parent.names ≠ [] := by
      rw [hparent]
      intro hnone
      have := congrArg List.length hnone
      rw [List.length_take, List.length_nil] at this
      omega
    have hpart : ({ path with names := path.names.take (n + 1) } : Path) = path.parent := by
      rw [← hparent]
      rfl
    rw [makeDirectories, hpart, makeDirectory_of_target (parent_of_locate h hsome)]

end FileTree

namespace Binding

open FileTree

variable {files : FileTree} {path : Text} {inode fresh : Nat}
  {probed : Except Failure (Option Pid)}

/-- A text that asks for a directory where a socket lies, whose address can be bound and has time to
be probed.  The path that is read from the text leads to the socket, the text itself to nothing. -/
structure Misfits (files : FileTree) (path : Text) (timeout : Instant) : Prop where
  socket : ∃ inode, files.node (Path.ofText path) = .ok (.socket inode)
  asks : Path.asksDirectory path = true
  short : (Utf8.encodeEscaping path).length ≤ longestAddress
  timely : timeout.isAtMostZero = false

/-- The address of a path whose text the system takes, in terms of what the text reaches. -/
theorem socketAt_of_locate {place : Place} (hlocate : files.locate (Path.ofText path) = .ok place) :
    files.socketAt path =
      if longestAddress < (Utf8.encodeEscaping path).length then .error .addressTooLong
      else
        match files.reach path with
        | .ok (.socket inode) => .ok inode
        | .ok _ => .error .connectionRefused
        | .error fault => .error fault := by
  have hspeakable := speakable_of_locate hlocate
  have hnamed : ¬ path.head? = some 0 := fun hhead =>
    (hspeakable 0 (List.mem_of_mem_head? hhead)).ne_zero rfl
  have htake : path.takeWhile (· ≠ 0) = path := by
    rw [List.takeWhile_eq_self_iff]
    intro c hc
    simpa using (hspeakable c hc).ne_zero
  unfold socketAt
  rw [(Utf8.encodeEscaping?_eq_ok_iff path _).2 ⟨fun c hc => (hspeakable c hc).1, rfl⟩, htake]
  dsimp only [Except.mapError, Bind.bind, Except.bind]
  rw [if_neg hnamed, if_neg hnamed]
  split_ifs
  · rfl
  · cases files.reach path with
    | error fault => rfl
    | ok node => cases node <;> rfl

/-- A text that asks for a directory where a socket lies leads to none. -/
theorem socketAt_of_misfit (hnode : files.node (Path.ofText path) = .ok (.socket inode))
    (hasks : Path.asksDirectory path = true)
    (hshort : (Utf8.encodeEscaping path).length ≤ longestAddress) :
    files.socketAt path = .error .notDirectory := by
  obtain ⟨place, hlocate, _⟩ := node_eq_ok_iff.1 hnode
  have hcheck : checkText path = .ok () :=
    (checkText_eq_ok_iff path).2 ⟨speakable_of_locate hlocate, Nat.le_trans hshort (by decide)⟩
  have hreach : files.reach path = .error .notDirectory := by
    unfold reach
    rw [hcheck, target_of_node hnode nofun]
    exact if_pos hasks
  rw [socketAt_of_locate hlocate, if_neg (Nat.not_lt.2 hshort), hreach]

/-- **A start that removes a socket puts its own one there**: the directories are there, and nothing
is in its way.  Only a text that asks for a directory cannot be bound. -/
theorem start_of_removal {place : Place}
    (hlocate : files.locate (Path.ofText path) = .ok place)
    (hplace : files.get? place = some (.socket inode))
    (hshort : (Utf8.encodeEscaping path).length ≤ longestAddress)
    (hjudge : judge path probed = .ok ()) :
    start files path fresh probed =
      if Path.asksDirectory path then
        (.error (.control (.unbindable path .noEntry)), files.erase place)
      else (.ok (), (files.erase place).put place (.socket fresh)) := by
  have hnode := node_eq_ok_iff.2 ⟨place, hlocate, hplace⟩
  have hinside : Inside place := inside_of_get?_ne (by rw [hplace]; exact nofun)
  have hthere := (erase_keepsWays hplace).locate hlocate
  have hbind : bind (files.erase place) path fresh =
      if Path.asksDirectory path then .error (.control (.unbindable path .noEntry))
      else .ok ((files.erase place).put place (.socket fresh)) := by
    unfold bind
    rw [if_neg (Nat.not_lt.2 hshort), hthere]
    dsimp only
    rw [get?_erase_self hinside, if_neg (by simp)]
  have hremoved : remove files path = files.erase place := by rw [remove, hlocate]
  rw [start, clear, inspect, hnode]
  dsimp only
  rw [hjudge, hremoved]
  dsimp only [Except.map]
  rw [makeParents_of_locate hthere]
  dsimp only
  rw [hbind]
  cases Path.asksDirectory path <;> rfl

/-- All ways in which a start fails: at clearing its path, at the directories above it, at binding. -/
inductive Fails (files : FileTree) (path : Text) (fresh : Nat)
    (probed : Except Failure (Option Pid)) : Failure → FileTree → Prop
  | uncleared {failure : Failure} (clears : clear files path probed = .error failure) :
      Fails files path fresh probed failure files
  | unhoused {cleared made : FileTree} {fault : PathFault}
      (clears : clear files path probed = .ok cleared)
      (houses : cleared.makeParents (Path.ofText path) = (.error fault, made)) :
      Fails files path fresh probed (.system fault) made
  | unbound {cleared made : FileTree} {failure : Failure}
      (clears : clear files path probed = .ok cleared)
      (houses : cleared.makeParents (Path.ofText path) = (.ok (), made))
      (binds : bind made path fresh = .error failure) :
      Fails files path fresh probed failure made

theorem fails_of_start {failure : Failure}
    (h : (start files path fresh probed).1 = .error failure) :
    Fails files path fresh probed failure (start files path fresh probed).2 := by
  unfold start at h ⊢
  cases hclear : clear files path probed with
  | error refusal =>
    rw [hclear] at h
    cases h
    exact .uncleared hclear
  | ok cleared =>
    rw [hclear] at h
    dsimp only at h ⊢
    rcases hmade : cleared.makeParents (Path.ofText path) with ⟨result, made⟩
    rw [hmade] at h
    cases result with
    | error fault =>
      cases h
      exact .unhoused hclear hmade
    | ok _ =>
      dsimp only at h ⊢
      cases hbind : bind made path fresh with
      | error refusal =>
        rw [hbind] at h
        cases h
        exact .unbound hclear hmade hbind
      | ok bound =>
        rw [hbind] at h
        cases h

/-- A path is not cleared where what lies at it, or what its probe found, forbids it. -/
theorem error_of_clear {failure : Failure} (h : clear files path probed = .error failure) :
    inspect files path = .error failure ∨ judge path probed = .error failure := by
  unfold clear at h
  split at h
  · cases h
    exact .inl ‹_›
  · cases h
  · cases hjudge : judge path probed with
    | ok _ =>
      rw [hjudge] at h
      cases h
    | error refusal =>
      rw [hjudge] at h
      cases h
      exact .inr rfl

/-- Something lies at a path that is no socket. -/
def Occupied (files : FileTree) (path : Text) : Prop :=
  ∃ node, files.node (Path.ofText path) = .ok node ∧ ∀ inode, node ≠ .socket inode

theorem inspect_eq_notSocket_iff :
    inspect files path = .error (.control (.notSocket path)) ↔ Occupied files path := by
  unfold inspect Occupied
  cases hnode : files.node (Path.ofText path) with
  | ok node =>
    cases node with
    | socket inode =>
      exact iff_of_false nofun fun ⟨_, hsame, hother⟩ => hother inode (Except.ok.inj hsame).symm
    | _ => exact iff_of_true rfl ⟨_, rfl, nofun⟩
  | error fault =>
    refine iff_of_false (fun h => ?_) nofun
    cases fault <;> cases h

theorem eq_notSocket_of_inspect {error : ControlError}
    (h : inspect files path = .error (.control error)) : error = .notSocket path := by
  unfold inspect at h
  split at h <;> cases h
  rfl

theorem control_of_judge {error : ControlError} (h : judge path probed = .error (.control error)) :
    ∃ pid, error = .alreadyRunning path pid := by
  unfold judge at h
  split at h
  · cases h
  · cases h
    exact ⟨_, rfl⟩
  · cases h
    exact ⟨_, rfl⟩
  · rename_i hother
    cases h
    exact absurd rfl (hother error)

theorem error_of_bind {failure : Failure} (h : bind files path fresh = .error failure) :
    (∃ pid, failure = .control (.alreadyRunning path pid)) ∨
      ∃ cause, failure = .control (.unbindable path cause) := by
  unfold bind at h
  split at h
  · cases h
    exact .inr ⟨_, rfl⟩
  · split at h
    · cases h
      exact .inr ⟨_, rfl⟩
    · split_ifs at h
      · cases h
        exact .inl ⟨_, rfl⟩
      · cases h
        exact .inr ⟨_, rfl⟩

/-- **A start that fails on the control channel** finds another instance, cannot bind, or finds what
is no socket. -/
theorem control_of_start {error : ControlError}
    (h : (start files path fresh probed).1 = .error (.control error)) :
    (∃ pid, error = .alreadyRunning path pid) ∨ (∃ cause, error = .unbindable path cause) ∨
      error = .notSocket path ∧ Occupied files path := by
  have hfails := fails_of_start h
  generalize (start files path fresh probed).2 = later at hfails
  cases hfails with
  | uncleared clears =>
    obtain hinspect | hjudge := error_of_clear clears
    · obtain rfl := eq_notSocket_of_inspect hinspect
      exact .inr (.inr ⟨rfl, inspect_eq_notSocket_iff.1 hinspect⟩)
    · exact .inl (control_of_judge hjudge)
  | unbound _ _ binds =>
    obtain ⟨pid, hpid⟩ | ⟨cause, hcause⟩ := error_of_bind binds
    · exact .inl ⟨pid, Failure.control.inj hpid⟩
    · exact .inr (.inl ⟨cause, Failure.control.inj hcause⟩)

theorem start_of_occupied (h : Occupied files path) :
    (start files path fresh probed).1 = .error (.control (.notSocket path)) := by
  rw [start, clear, inspect_eq_notSocket_iff.2 h]

end Binding

namespace Site

open FileTree

variable {Facts : Type} {s : Site Facts} {failure : Failure}

/-- A start that finds no socket at its path probes no one. -/
theorem start_of_no_socket
    (h : ∀ inode, s.machine.files.node (Path.ofText s.listener.path) ≠ .ok (.socket inode)) :
    (s.start.1, s.start.2.machine.files)
      = Binding.start s.machine.files s.listener.path s.freshInode (.ok none) := by
  have hinspect : Binding.inspect s.machine.files s.listener.path ≠ .ok .socket := by
    unfold Binding.inspect
    split
    · exact absurd ‹_› (h _)
    all_goals nofun
  unfold start
  cases hfound : Binding.inspect s.machine.files s.listener.path with
  | ok occupant =>
    cases occupant with
    | socket => exact absurd hfound hinspect
    | nothing =>
      dsimp only [Listener.start]
      generalize Binding.start s.machine.files s.listener.path _ _ = outcome
      obtain ⟨result, files⟩ := outcome
      cases result <;> rfl
  | error refusal =>
    dsimp only [Listener.start]
    generalize Binding.start s.machine.files s.listener.path _ _ = outcome
    obtain ⟨result, files⟩ := outcome
    cases result <;> rfl

/-- A start ends as one that probes the path does, whatever that probe finds. -/
theorem exists_start (s : Site Facts) :
    ∃ probed,
      s.start.1 = (Binding.start s.machine.files s.listener.path s.freshInode probed).1 := by
  by_cases hsocket :
      ∃ inode, s.machine.files.node (Path.ofText s.listener.path) = .ok (.socket inode)
  · obtain ⟨inode, hnode⟩ := hsocket
    exact ⟨_, congrArg Prod.fst (start_of_socket hnode)⟩
  · exact ⟨.ok none, congrArg Prod.fst (start_of_no_socket (not_exists.1 hsocket))⟩

/-- What a connection meets where the address leads to no socket. -/
theorem converse_of_error {m : Machine} {address : Text} {fault : OsFault}
    (h : m.files.socketAt address = .error fault) (sent : List Message) :
    (m.converse address sent).1 = .error fault := by
  rw [Machine.converse, h]

/-- **A start under a text that misfits** fails: the text leads to no one, so that the socket is
taken for one that was left behind, and it cannot be bound, so that none lies there afterwards. -/
theorem start_of_misfit
    (h : Binding.Misfits s.machine.files s.listener.path s.listener.settings.requestTimeout) :
    s.start.1 = .error (.control (.unbindable s.listener.path .noEntry)) ∧
      ∃ place inode, s.machine.files.get? place = some (.socket inode) ∧
        s.start.2.machine.files = s.machine.files.erase place := by
  obtain ⟨⟨inode, hnode⟩, hasks, hshort, htimely⟩ := h
  obtain ⟨place, hlocate, hplace⟩ := node_eq_ok_iff.1 hnode
  have hjudge : Binding.judge s.listener.path
      (Client.probe s.listener.path s.listener.settings.requestTimeout
        (s.machine.converse s.listener.path
          (Client.probeRequest s.listener.settings.requestTimeout)).1) = .ok () := by
    rw [converse_of_error (Binding.socketAt_of_misfit hnode hasks hshort)]
    exact (Binding.judge_probe_refused _ _ _).2 ⟨htimely, rfl⟩
  have hstart := start_of_socket hnode
  dsimp only at hstart
  rw [Binding.start_of_removal hlocate hplace hshort hjudge, if_pos hasks, Prod.mk.injEq] at hstart
  exact ⟨hstart.1, place, inode, hplace, hstart.2⟩

end Site

end ControlChannel
