import ControlChannel.Contest
import ControlChannel.Proofs.BoundSocket
import ControlChannel.Proofs.FrameReading

/-!
# One process for one path

Binding fails where a socket lies, so **only a removal can part a process from its path**.

* `Contest.Sole` — the path names the socket of each process that runs, and one runs at most;
* `Contest.Unseats` — a move after which the path does not name the socket of one that runs;
* `Contest.Exclusive`, `Contest.Displaces` — the same for each process that holds a socket, running
  or not;
* `Stage.next_cases` — all that one step can do to the file tree and to the socket that is held;
* `Contest.names_of_step` — a path keeps naming a socket under every step that removes nothing;
* `Contest.Orderly` — moves that keep clear of the steps in which others look and then act.
-/

namespace ControlChannel

/-! ### One step -/

namespace Stage

/-- Whether a process is about to remove what lies at the path, because of what it found. -/
def withdraws : Stage → Bool
  | clearing => true
  | closed _ => true
  | leaving => true
  | _ => false

theorem holds?_eq_none_of_withdraws {s : Stage} (h : s.withdraws = true) : s.holds? = none := by
  cases s <;> first | rfl | cases h

/-- **All that one step can do.**  It leaves the tree as it is and at most gives up the socket that
is held; or it makes directories; or it binds; or it removes. -/
theorem next_cases (path : Text) (files : FileTree) (probed : Except Failure (Option Pid))
    (inode : Nat) (s : Stage) :
    let files' := (s.next path files probed inode).1
    let s' := (s.next path files probed inode).2
    (files' = files ∧ (s'.holds? = none ∨ s'.holds? = s.holds?)) ∨
      (files' = (files.makeParents (Path.ofText path)).2 ∧ s'.holds? = none) ∨
      (s = housed ∧ Binding.bind files path inode = .ok files' ∧ s' = bound inode) ∨
      ((s = clearing ∨ s = leaving) ∧ files' = Binding.remove files path ∧ s'.holds? = none) := by
  cases s with
  | idle =>
    refine .inl ?_
    unfold next
    dsimp only
    split <;> exact ⟨rfl, .inl rfl⟩
  | found =>
    refine .inl ?_
    unfold next
    dsimp only
    split <;> exact ⟨rfl, .inl rfl⟩
  | clearing => exact .inr (.inr (.inr ⟨.inl rfl, rfl, rfl⟩))
  | cleared =>
    unfold next
    dsimp only
    refine .inr (.inl ?_)
    obtain ⟨result, made⟩ := files.makeParents (Path.ofText path)
    cases result <;> exact ⟨rfl, rfl⟩
  | housed =>
    unfold next
    dsimp only
    cases hbind : Binding.bind files path inode with
    | error failure => exact .inl ⟨rfl, .inl rfl⟩
    | ok after => exact .inr (.inr (.inl ⟨rfl, rfl, rfl⟩))
  | bound own =>
    refine .inl ?_
    unfold next
    dsimp only
    split
    · exact ⟨rfl, .inr rfl⟩
    · exact ⟨rfl, .inl rfl⟩
  | guarded own => exact .inl ⟨rfl, .inr rfl⟩
  | listening own =>
    refine .inl ?_
    unfold next
    dsimp only
    split
    · exact ⟨rfl, .inr rfl⟩
    · exact ⟨rfl, .inl rfl⟩
  | running own known => exact .inl ⟨rfl, .inl rfl⟩
  | closed known =>
    refine .inl ?_
    unfold next
    dsimp only
    split
    · split_ifs <;> exact ⟨rfl, .inl rfl⟩
    · exact ⟨rfl, .inl rfl⟩
  | leaving => exact .inr (.inr (.inr ⟨.inr rfl, rfl, rfl⟩))

/-- A process is started by the step in which it looks up its inode. -/
theorem next_running {path : Text} {files : FileTree} {probed : Except Failure (Option Pid)}
    {inode own known : Nat} {s : Stage}
    (h : (s.next path files probed inode).2 = running own known) :
    s = listening own ∧ (s.next path files probed inode).1 = files := by
  cases s with
  | listening held =>
    unfold next at h ⊢
    dsimp only at h ⊢
    split at h
    · cases h
      exact ⟨rfl, rfl⟩
    · cases h
  | closed known =>
    unfold next at h
    dsimp only at h
    split at h
    · split_ifs at h
    · cases h
  | clearing => cases h
  | guarded own => cases h
  | running own known => cases h
  | leaving => cases h
  | _ =>
    unfold next at h
    dsimp only at h
    split at h <;> cases h

/-- A process comes to withdraw a socket file because its probe was not answered, or because it
closes its own socket. -/
theorem next_withdraws {path : Text} {files : FileTree} {probed : Except Failure (Option Pid)}
    {inode : Nat} {s : Stage} (h : (s.next path files probed inode).2.withdraws = true) :
    (s = found ∧ Binding.judge path probed = .ok ()) ∨ (∃ own known, s = running own known) ∨
      s.withdraws = true := by
  cases s with
  | found =>
    unfold next at h
    dsimp only at h
    cases hjudge : Binding.judge path probed with
    | error failure =>
      rw [hjudge] at h
      cases h
    | ok _ => exact .inl ⟨rfl, rfl⟩
  | running own known => exact .inr (.inl ⟨own, known, rfl⟩)
  | clearing => exact .inr (.inr rfl)
  | closed known => exact .inr (.inr rfl)
  | leaving => exact .inr (.inr rfl)
  | guarded own => cases h
  | _ =>
    unfold next at h
    dsimp only at h
    split at h <;> cases h

end Stage

namespace Contest

variable {n : Nat} (r : Rivals n)

/-! ### What holds of a contest -/

/-- Each process that holds a socket finds it at the path. -/
def Exclusive (c : Contest n) : Prop :=
  ∀ p inode, (c.stage p).holds? = some inode → c.files.Names r.path inode

/-- No socket is held by two processes. -/
def Apart (c : Contest n) : Prop :=
  ∀ p q inode, (c.stage p).holds? = some inode → (c.stage q).holds? = some inode → p = q

/-- The path names the socket of each process that runs. -/
def Seated (c : Contest n) : Prop :=
  ∀ p own known, c.stage p = .running own known → c.files.Names r.path own

/-- The path names the socket of each process that runs, and one runs at most. -/
def Sole (c : Contest n) : Prop :=
  Seated r c ∧ ∀ p q own known own' known', c.stage p = .running own known →
    c.stage q = .running own' known' → p = q

/-- A move removes what lies at the path. -/
def Removes (c : Contest n) (m : Move n) : Prop :=
  c.stage m.process = .clearing ∨ c.stage m.process = .leaving

/-- A move removes the socket file of a running process from the path, or starts a process whose
socket is not there. -/
def Unseats (c : Contest n) (m : Move n) : Prop :=
  (Removes c m ∧ ∃ p own known, c.stage p = .running own known ∧ c.files.Names r.path own) ∨
    ∃ own known, c.stage m.process = .listening own ∧
      (c.step r m).stage m.process = .running own known ∧ ¬ c.files.Names r.path own

/-- A move removes the socket file of another process from the path. -/
def Displaces (c : Contest n) (m : Move n) : Prop :=
  Removes c m ∧ ∃ p inode, (c.stage p).holds? = some inode ∧ c.files.Names r.path inode

variable {r} {c : Contest n} {m : Move n}

theorem step_files :
    (c.step r m).files = ((c.stage m.process).next r.path c.files
      (Client.probe r.path r.timeout (c.contact r)) m.inode).1 := rfl

@[simp] theorem step_stage_self :
    (c.step r m).stage m.process = ((c.stage m.process).next r.path c.files
      (Client.probe r.path r.timeout (c.contact r)) m.inode).2 := by
  simp only [step, put, if_true]

theorem step_stage_other {p : Fin n} (h : p ≠ m.process) :
    (c.step r m).stage p = c.stage p := by
  simp only [step, put, if_neg h]

/-- What a process holds after the move of another one, it held before. -/
theorem holds?_of_step {p : Fin n} {inode : Nat}
    (h : ((c.step r m).stage p).holds? = some inode) :
    (c.stage p).holds? = some inode ∨
      (p = m.process ∧ inode = m.inode ∧ c.stage p = .housed ∧
        Binding.bind c.files r.path m.inode = .ok (c.step r m).files) := by
  by_cases hp : p = m.process
  · subst hp
    rw [step_stage_self] at h
    have hcases := Stage.next_cases r.path c.files
      (Client.probe r.path r.timeout (c.contact r)) m.inode (c.stage m.process)
    dsimp only at hcases
    rcases hcases with ⟨_, hnone | hsame⟩ | ⟨_, hnone⟩ | ⟨hhoused, hbind, hbound⟩ | ⟨_, _, hnone⟩
    · rw [hnone] at h
      cases h
    · exact .inl (hsame ▸ h)
    · rw [hnone] at h
      cases h
    · rw [hbound] at h
      cases h
      exact .inr ⟨rfl, rfl, hhoused, hbind⟩
    · rw [hnone] at h
      cases h
  · rw [step_stage_other hp] at h
    exact .inl h

/-- Fresh inodes keep sockets apart. -/
theorem apart_step (apart : Apart c) (fresh : Fresh c m) : Apart (c.step r m) := by
  intro p q inode hp hq
  rcases holds?_of_step hp with hp | ⟨hp, hinode, hhoused, _⟩
  · rcases holds?_of_step hq with hq | ⟨hq, hinode, hhoused, _⟩
    · exact apart p q inode hp hq
    · rw [hq] at hhoused
      exact absurd (hinode ▸ hp) ((fresh hhoused).1 p)
  · rcases holds?_of_step hq with hq | ⟨hq, _, _, _⟩
    · rw [hp] at hhoused
      exact absurd (hinode ▸ hq) ((fresh hhoused).1 q)
    · rw [hp, hq]

/-- What the path names, it names after a step that removes nothing.  Binding fails where a socket
lies, and making directories takes nothing away. -/
theorem names_of_step {inode : Nat} (hnames : c.files.Names r.path inode)
    (hkeeps : ¬ Removes c m) : (c.step r m).files.Names r.path inode := by
  have hcases := Stage.next_cases r.path c.files
    (Client.probe r.path r.timeout (c.contact r)) m.inode (c.stage m.process)
  dsimp only at hcases
  rw [← step_files] at hcases
  rcases hcases with ⟨hfiles, _⟩ | ⟨hmade, _⟩ | ⟨_, hbind, _⟩ | ⟨hremoves, _, _⟩
  · rw [hfiles]
    exact hnames
  · exact hnames.extends (hmade ▸ (FileTree.makeParents_houses _ _).extends)
  · rcases Binding.bind_of_names hnames m.inode with ⟨failure, hfails⟩
    rw [hbind] at hfails
    cases hfails
  · exact absurd hremoves hkeeps

/-- After a removal the path names no socket. -/
theorem not_names_of_removes (hremoves : Removes c m) (inode : Nat) :
    ¬ (c.step r m).files.Names r.path inode := by
  have hfiles : (c.step r m).files = Binding.remove c.files r.path := by
    rcases hremoves with hstage | hstage
    all_goals
      rw [step_files, hstage]
      rfl
  rw [hfiles]
  exact Binding.remove_names c.files r.path inode

/-- A process that removes holds no socket itself. -/
theorem ne_of_removes {p : Fin n} {inode : Nat} (hremoves : Removes c m)
    (hp : (c.stage p).holds? = some inode) : p ≠ m.process := by
  intro hself
  rw [hself] at hp
  rcases hremoves with hstage | hstage
  all_goals
    rw [hstage] at hp
    cases hp

/-- **Every move that displaces no one keeps the sockets that are held at the path.** -/
theorem exclusive_step (exclusive : Exclusive r c) (harmless : ¬ Displaces r c m) :
    Exclusive r (c.step r m) := by
  intro p inode h
  rcases holds?_of_step h with hp | ⟨_, hinode, _, hbind⟩
  · have hnames := exclusive p inode hp
    exact names_of_step hnames fun hremoves => harmless ⟨hremoves, p, inode, hp, hnames⟩
  · rw [hinode]
    exact Binding.bind_names hbind

/-- A move that displaces a process parts it from the path. -/
theorem not_exclusive_of_displaces (h : Displaces r c m) : ¬ Exclusive r (c.step r m) := by
  rcases h with ⟨hremoves, p, inode, hp, _⟩
  intro exclusive
  have hp' : ((c.step r m).stage p).holds? = some inode := by
    rw [step_stage_other (ne_of_removes hremoves hp)]
    exact hp
  exact not_names_of_removes hremoves inode (exclusive p inode hp')

/-! ### Processes that run -/

theorem holds?_of_running {p : Fin n} {own known : Nat} (h : c.stage p = .running own known) :
    (c.stage p).holds? = some own := by
  rw [h]
  rfl

/-- A process that runs after a move ran before, or was started by the move. -/
theorem running_of_step {p : Fin n} {own known : Nat}
    (h : (c.step r m).stage p = .running own known) :
    (p ≠ m.process ∧ c.stage p = .running own known) ∨
      (p = m.process ∧ c.stage m.process = .listening own ∧ (c.step r m).files = c.files) := by
  by_cases hp : p = m.process
  · subst hp
    rw [step_stage_self] at h
    exact .inr ⟨rfl, Stage.next_running h⟩
  · rw [step_stage_other hp] at h
    exact .inl ⟨hp, h⟩

/-- **Every move that unseats no one keeps the path at the sockets of those that run.** -/
theorem seated_step (seated : Seated r c) (harmless : ¬ Unseats r c m) :
    Seated r (c.step r m) := by
  intro p own known h
  rcases running_of_step h with ⟨_, hp⟩ | ⟨hself, hlistening, hfiles⟩
  · have hnames := seated p own known hp
    exact names_of_step hnames fun hremoves =>
      harmless (.inl ⟨hremoves, p, own, known, hp, hnames⟩)
  · rw [hfiles]
    by_contra hastray
    rw [hself] at h
    exact harmless (.inr ⟨own, known, hlistening, h, hastray⟩)

/-- A move that unseats a process leaves it running on a socket that the path does not name. -/
theorem not_seated_of_unseats (h : Unseats r c m) : ¬ Seated r (c.step r m) := by
  intro seated
  rcases h with ⟨hremoves, p, own, known, hp, _⟩ | ⟨own, known, hlistening, hstarted, hastray⟩
  · have hp' : (c.step r m).stage p = .running own known := by
      rw [step_stage_other (ne_of_removes hremoves (holds?_of_running hp))]
      exact hp
    exact not_names_of_removes hremoves own (seated p own known hp')
  · have hfiles : (c.step r m).files = c.files := by
      rcases running_of_step hstarted with ⟨hother, _⟩ | ⟨_, _, hfiles⟩
      · exact absurd rfl hother
      · exact hfiles
    have hnames := seated m.process own known hstarted
    rw [hfiles] at hnames
    exact hastray hnames

theorem seated_of_exclusive (exclusive : Exclusive r c) : Seated r c := by
  intro p own known hp
  exact exclusive p own (holds?_of_running hp)

/-- Where the path names the sockets of all that run, one runs at most, since it names one. -/
theorem sole_of_seated (seated : Seated r c) (apart : Apart c) : Sole r c := by
  refine ⟨seated, ?_⟩
  intro p q own known own' known' hp hq
  have hsame : own = own' := (seated p own known hp).unique (seated q own' known' hq)
  have hq' := holds?_of_running hq
  rw [← hsame] at hq'
  exact apart p q own (holds?_of_running hp) hq'

/-! ### Who answers a probe -/

/-- A probe of a path is not taken for unanswered while a process listens on the socket that the
path names. -/
theorem judge_of_listens {p : Fin n} {inode : Nat} (hnames : c.files.Names r.path inode)
    (hlistens : (c.stage p).listens? = some inode) :
    ∃ failure, Binding.judge r.path (Client.probe r.path r.timeout (c.contact r))
      = .error failure := by
  have hcontact : ∃ q, c.contact r = .ok (Delivery.ofMessages [.idResponse (r.pid q)]) := by
    unfold contact
    rw [hnames.address]
    dsimp only
    cases hfind : (List.finRange n).find? fun p => (c.stage p).listens? = some inode with
    | some q => exact ⟨q, rfl⟩
    | none =>
      have hnone := List.find?_eq_none.1 hfind p (List.mem_finRange p)
      exact absurd (decide_eq_true hlistens) hnone
  rcases hcontact with ⟨q, hcontact⟩
  rcases Frame.encode_idResponse (r.pid q) with ⟨frame, hframe⟩
  have hbytes : Delivery.ofMessages [.idResponse (r.pid q)]
      = { bytes := frame ++ [], manner := .hangsUp } := by
    simp [Delivery.ofMessages, hframe, Except.toOption]
  rw [hcontact, hbytes]
  unfold Client.probe
  dsimp only
  split_ifs with hlate hnan
  · exact ⟨_, rfl⟩
  · exact ⟨_, rfl⟩
  · unfold Client.ask Client.pidOf
    dsimp only
    rw [Delivery.receive_encode hframe]
    exact ⟨_, rfl⟩

/-! ### Moves that keep clear of each other -/

/-- Where a process is about to remove what lies at the path, no process holds a socket. -/
def Calm (c : Contest n) : Prop :=
  ∀ p, (c.stage p).withdraws = true → ∀ q, (c.stage q).holds? = none

/-- A move keeps clear of what others have begun: none probes while a socket is bound on which no
one listens yet, and none binds while another is about to remove what lies at the path. -/
def Orderly (c : Contest n) (m : Move n) : Prop :=
  (c.stage m.process = .found → ∀ p, (c.stage p).holds? = (c.stage p).listens?) ∧
    (c.stage m.process = .housed → ∀ p, (c.stage p).withdraws = false)

instance (c : Contest n) (m : Move n) : Decidable (Orderly c m) :=
  inferInstanceAs (Decidable ((_ → _) ∧ (_ → _)))

theorem not_displaces_of_calm (calm : Calm c) : ¬ Displaces r c m := by
  intro h
  rcases h with ⟨hremoves, p, inode, hp, _⟩
  have hwithdraws : (c.stage m.process).withdraws = true := by
    rcases hremoves with hstage | hstage
    all_goals
      rw [hstage]
      rfl
  rw [calm m.process hwithdraws p] at hp
  cases hp

/-- A process that is about to remove after a move either was so before, or no process held a
socket when its probe was not answered, or it held the only one and closed it. -/
theorem holds?_of_withdraws (exclusive : Exclusive r c) (apart : Apart c) (calm : Calm c)
    (orderly : Orderly c m) (h : ((c.step r m).stage m.process).withdraws = true) (q : Fin n)
    (hq : q ≠ m.process) : (c.stage q).holds? = none := by
  cases hheld : (c.stage q).holds? with
  | none => rfl
  | some inode =>
    exfalso
    have hnames := exclusive q inode hheld
    rw [step_stage_self] at h
    rcases Stage.next_withdraws h with ⟨hfound, hjudge⟩ | ⟨own, known, hrunning⟩ | hbefore
    · have hlistens : (c.stage q).listens? = some inode := by
        rw [← orderly.1 hfound q]
        exact hheld
      rcases judge_of_listens hnames hlistens with ⟨failure, hfails⟩
      rw [hjudge] at hfails
      cases hfails
    · have hown : (c.stage m.process).holds? = some own := by
        rw [hrunning]
        rfl
      have hsame : own = inode := (exclusive m.process own hown).unique hnames
      rw [← hsame] at hheld
      exact hq (apart q m.process own hheld hown)
    · rw [calm m.process hbefore q] at hheld
      cases hheld

/-- **Orderly moves keep a contest calm.** -/
theorem calm_step (exclusive : Exclusive r c) (apart : Apart c) (calm : Calm c)
    (orderly : Orderly c m) : Calm (c.step r m) := by
  intro p hwithdraws q
  cases hq : ((c.step r m).stage q).holds? with
  | none => rfl
  | some inode =>
    exfalso
    by_cases hp : p = m.process
    · subst hp
      have hother : q ≠ m.process := by
        intro hself
        rw [hself, Stage.holds?_eq_none_of_withdraws hwithdraws] at hq
        cases hq
      rw [step_stage_other hother,
        holds?_of_withdraws exclusive apart calm orderly hwithdraws q hother] at hq
      cases hq
    · rw [step_stage_other hp] at hwithdraws
      rcases holds?_of_step hq with hheld | ⟨hself, _, hhoused, _⟩
      · rw [calm p hwithdraws q] at hheld
        cases hheld
      · rw [hself] at hhoused
        rw [orderly.2 hhoused p] at hwithdraws
        cases hwithdraws

/-! ### Schedules -/

variable (r) in
/-- Something holds of every state that a schedule goes through. -/
def Throughout (holds : Contest n → Prop) (c : Contest n) (schedule : List (Move n)) : Prop :=
  ∀ before, before <+: schedule → holds (c.run r before)

theorem throughout_cons {holds : Contest n → Prop} {later : List (Move n)} :
    Throughout r holds c (m :: later) ↔ holds c ∧ Throughout r holds (c.step r m) later := by
  constructor
  · intro h
    refine ⟨h [] List.nil_prefix, ?_⟩
    intro before hbefore
    exact h (m :: before) (List.prefix_cons_inj m |>.2 hbefore)
  · intro h before hbefore
    rcases List.prefix_cons_iff.1 hbefore with hnil | ⟨rest, hrest, hprefix⟩
    · rw [hnil]
      exact h.1
    · rw [hrest]
      exact h.2 rest hprefix

theorem throughout_nil {holds : Contest n → Prop} : Throughout r holds c [] ↔ holds c := by
  constructor
  · intro h
    exact h [] List.nil_prefix
  · intro h before hbefore
    rw [List.prefix_nil.1 hbefore]
    exact h

theorem Throughout.head {holds : Contest n → Prop} {schedule : List (Move n)}
    (h : Throughout r holds c schedule) : holds c := h [] List.nil_prefix

/-- Fresh inodes keep sockets apart throughout. -/
theorem apart_throughout {schedule : List (Move n)} (apart : Apart c)
    (fresh : Always r Fresh c schedule) : Throughout r Apart c schedule := by
  induction schedule generalizing c with
  | nil => exact throughout_nil.2 apart
  | cons m later ih => exact throughout_cons.2 ⟨apart, ih (apart_step apart fresh.1) fresh.2⟩

/-- What exactly one kind of move breaks holds throughout exactly if no such move is taken. -/
theorem throughout_iff_always {holds : Contest n → Prop} {breaks : Contest n → Move n → Prop}
    (hkeeps : ∀ c m, holds c → ¬ breaks c m → holds (c.step r m))
    (hbreaks : ∀ c m, breaks c m → ¬ holds (c.step r m)) {schedule : List (Move n)}
    (first : holds c) :
    Throughout r holds c schedule ↔ Always r (fun c m => ¬ breaks c m) c schedule := by
  induction schedule generalizing c with
  | nil => exact ⟨fun _ => trivial, fun _ => throughout_nil.2 first⟩
  | cons m later ih =>
    rw [throughout_cons]
    constructor
    · intro h
      have hnext : holds (c.step r m) := h.2.head
      exact ⟨fun hbroken => hbreaks c m hbroken hnext, (ih hnext).1 h.2⟩
    · intro h
      have hnext : holds (c.step r m) := hkeeps c m first h.1
      exact ⟨first, (ih hnext).2 h.2⟩

/-- Sockets stay at the path exactly as long as no move displaces a process. -/
theorem exclusive_throughout_iff {schedule : List (Move n)} (exclusive : Exclusive r c) :
    Throughout r (Exclusive r) c schedule ↔
      Always r (fun c m => ¬ Displaces r c m) c schedule :=
  throughout_iff_always (fun _ _ => exclusive_step) (fun _ _ => not_exclusive_of_displaces)
    exclusive

/-- The path names the sockets of those that run exactly as long as no move unseats one. -/
theorem seated_throughout_iff {schedule : List (Move n)} (seated : Seated r c) :
    Throughout r (Seated r) c schedule ↔ Always r (fun c m => ¬ Unseats r c m) c schedule :=
  throughout_iff_always (fun _ _ => seated_step) (fun _ _ => not_seated_of_unseats) seated

/-- **Orderly moves displace no one.** -/
theorem harmless_of_orderly {schedule : List (Move n)} (exclusive : Exclusive r c)
    (apart : Apart c) (calm : Calm c) (fresh : Always r Fresh c schedule)
    (orderly : Always r Orderly c schedule) :
    Always r (fun c m => ¬ Displaces r c m) c schedule := by
  induction schedule generalizing c with
  | nil => trivial
  | cons m later ih =>
    have harmless : ¬ Displaces r c m := not_displaces_of_calm calm
    exact ⟨harmless, ih (exclusive_step exclusive harmless) (apart_step apart fresh.1)
      (calm_step exclusive apart calm orderly.1) fresh.2 orderly.2⟩

/-! ### The one running process -/

/-- **What keeps one process the only one on its path, and what does not.**  Starts and closes may
mix in any order, from any file tree.  The path names the socket of each process that runs, and one
runs at most, throughout exactly if no removal takes away the socket file of a running process and
no start ends with its socket gone from the path.  Each socket that is held, by a process that runs
or is on its way, is at the path throughout exactly if no removal displaces another process, and
that is enough.  It is so whenever none probes between the binding and the listening of another,
and none binds between the look and the removal of another. -/
theorem sole_exactly_without_unseating (c : Contest n) (idle : ∀ p, c.stage p = .idle)
    (schedule : List (Move n)) (fresh : Always r Fresh c schedule) :
    (Throughout r (Sole r) c schedule ↔ Always r (fun c m => ¬ Unseats r c m) c schedule) ∧
      (Throughout r (Exclusive r) c schedule ↔
        Always r (fun c m => ¬ Displaces r c m) c schedule) ∧
      (Throughout r (Exclusive r) c schedule → Throughout r (Sole r) c schedule) ∧
      (Always r Orderly c schedule → Always r (fun c m => ¬ Displaces r c m) c schedule) := by
  have hnone : ∀ p, (c.stage p).holds? = none := by
    intro p
    rw [idle p]
    rfl
  have exclusive : Exclusive r c := by
    intro p inode hp
    rw [hnone p] at hp
    cases hp
  have apart : Apart c := by
    intro p q inode hp
    rw [hnone p] at hp
    cases hp
  have calm : Calm c := by
    intro p _ q
    exact hnone q
  have happart := apart_throughout apart fresh
  refine ⟨?_, exclusive_throughout_iff exclusive, ?_,
    harmless_of_orderly exclusive apart calm fresh⟩
  · rw [← seated_throughout_iff (seated_of_exclusive exclusive)]
    constructor
    · intro hsole before hbefore
      exact (hsole before hbefore).1
    · intro hseated before hbefore
      exact sole_of_seated (hseated before hbefore) (happart before hbefore)
  · intro hexclusive before hbefore
    exact sole_of_seated (seated_of_exclusive (hexclusive before hbefore))
      (happart before hbefore)

/-- Two processes. -/
def pair : Rivals 2 where
  path := "ctl.sock"
  timeout := .whole 2
  pid := fun p => ⟨4242 + p.val, by omega⟩

/-- No process has begun, and the socket file of one that is gone lies at the path. -/
def abandoned : Contest 2 where
  files := { entries := [(⟨false, ["ctl.sock"]⟩, .socket 7)] }
  stage := fun _ => .idle

/-- One process starts, and when it is done the other one looks and probes. -/
def inTurn : List (Move 2) :=
  [⟨0, 0⟩, ⟨0, 0⟩, ⟨0, 0⟩, ⟨0, 0⟩, ⟨0, 8⟩, ⟨0, 0⟩, ⟨0, 0⟩, ⟨0, 0⟩, ⟨1, 0⟩, ⟨1, 0⟩]

/-- Starts that come one after the other leave one process on the path. -/
theorem inTurn_sole :
    Throughout pair (Sole pair) abandoned inTurn := by
  rcases sole_exactly_without_unseating (r := pair) abandoned (by decide) inTurn (by decide) with
    ⟨_, hexclusive, hsole, horderly⟩
  exact hsole (hexclusive.2 (horderly (by decide)))

/-- Both find the abandoned socket unanswered.  One removes it, binds and is started; then the
other one removes what lies at the path, binds and is started as well. -/
def lateRemoval : List (Move 2) :=
  [⟨0, 0⟩, ⟨1, 0⟩, ⟨0, 0⟩, ⟨1, 0⟩, ⟨0, 0⟩, ⟨0, 0⟩, ⟨0, 8⟩, ⟨0, 0⟩, ⟨0, 0⟩, ⟨0, 0⟩,
    ⟨1, 0⟩, ⟨1, 0⟩, ⟨1, 9⟩, ⟨1, 0⟩, ⟨1, 0⟩, ⟨1, 0⟩]

/-- **Two processes can run at once**, and the path names the socket of the later one only. -/
theorem lateRemoval_not_sole :
    (∀ p, abandoned.stage p = .idle) ∧ Always pair Fresh abandoned lateRemoval ∧
      (abandoned.run pair lateRemoval).stage 0 = .running 8 8 ∧
      (abandoned.run pair lateRemoval).stage 1 = .running 9 9 ∧
      (abandoned.run pair lateRemoval).files.socketAt pair.path = .ok 9 ∧
      ¬ Sole pair (abandoned.run pair lateRemoval) := by
  have hfirst : (abandoned.run pair lateRemoval).stage 0 = .running 8 8 := by decide
  have hsecond : (abandoned.run pair lateRemoval).stage 1 = .running 9 9 := by decide
  refine ⟨by decide, by decide, hfirst, hsecond, by decide, ?_⟩
  intro hsole
  have hsame := hsole.2 0 1 8 8 9 9 hfirst hsecond
  exact absurd hsame (by decide)

end Contest

end ControlChannel
