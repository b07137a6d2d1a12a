import ControlChannel.Contest
import ControlChannel.Proofs.BoundSocket

/-!
# Starts and closes that no one disturbs

The steps of one process, with none of others between, come to a whole start or a whole close.

* `Contest.Alone` — a contest comes from one state to another by moves of one process;
* `Contest.alone_start` — **the steps of a start are `Binding.start`**;
* `Contest.alone_close` — the steps of a close are `Binding.close`.
-/

namespace ControlChannel

namespace Contest

variable {n : Nat} {r : Rivals n} {c c' : Contest n} {m : Move n}

/-! ### States of one process -/

@[simp] theorem put_put (c : Contest n) (p : Fin n) (outcome outcome' : FileTree × Stage) :
    (c.put p outcome).put p outcome' = c.put p outcome' := by
  unfold put
  congr 1
  funext q
  by_cases hq : q = p
  · simp only [if_pos hq]
  · simp only [if_neg hq]

@[simp] theorem put_self (c : Contest n) (p : Fin n) : c.put p (c.files, c.stage p) = c := by
  unfold put
  congr 1
  funext q
  by_cases hq : q = p
  · simp [hq]
  · simp [hq]

/-- A connection meets the same process as long as no process begins or ceases to listen. -/
theorem contact_put {p : Fin n} {s : Stage} (h : s.listens? = (c.stage p).listens?) :
    (c.put p (c.files, s)).contact r = c.contact r := by
  have hlistens : ∀ q, ((c.put p (c.files, s)).stage q).listens? = (c.stage q).listens? := by
    intro q
    by_cases hq : q = p
    · simp [put, hq, h]
    · simp [put, hq]
  unfold contact
  simp only [hlistens]
  rfl

/-! ### Moves of one process -/

/-- A process brings a contest from one state to another by its own moves. -/
def Alone (r : Rivals n) (m : Move n) (c c' : Contest n) : Prop :=
  ∃ steps, c.run r (List.replicate steps m) = c'

theorem Alone.refl (r : Rivals n) (m : Move n) (c : Contest n) : Alone r m c c := ⟨0, rfl⟩

theorem Alone.step (h : Alone r m (c.step r m) c') : Alone r m c c' := by
  rcases h with ⟨steps, hsteps⟩
  exact ⟨steps + 1, hsteps⟩

theorem step_put (c : Contest n) (m : Move n) (files : FileTree) (s : Stage) :
    (c.put m.process (files, s)).step r m
      = c.put m.process (s.next r.path files
          (Client.probe r.path r.timeout ((c.put m.process (files, s)).contact r)) m.inode) := by
  have hstage : (c.put m.process (files, s)).stage m.process = s := if_pos rfl
  unfold Contest.step
  dsimp only
  rw [put_put, hstage]
  rfl

/-- A step that does not probe. -/
theorem Alone.next {files : FileTree} {s : Stage} {outcome : FileTree × Stage}
    (hnext : ∀ probed, s.next r.path files probed m.inode = outcome)
    (h : Alone r m (c.put m.process outcome) c') : Alone r m (c.put m.process (files, s)) c' := by
  apply Alone.step
  rw [step_put, hnext]
  exact h

/-! ### A start -/

/-- Where a start of a process leads, given what it comes to. -/
def started (c : Contest n) (m : Move n) : Except Failure Unit × FileTree → Contest n
  | (.ok (), files) => c.put m.process (files, .running m.inode m.inode)
  | (.error _, files) => c.put m.process (files, .idle)

/-- A process that finds nothing in its way makes directories, binds and is started, unless one of
these fails. -/
theorem alone_of_cleared (c : Contest n) (m : Move n) (files : FileTree) :
    Alone r m (c.put m.process (files, .cleared))
      (c.started m (match files.makeParents (Path.ofText r.path) with
        | (.error fault, files) => (.error (.system fault), files)
        | (.ok (), files) =>
          match Binding.bind files r.path m.inode with
          | .error failure => (.error failure, files)
          | .ok files => (.ok (), files))) := by
  rcases hmade : files.makeParents (Path.ofText r.path) with ⟨result, made⟩
  cases result with
  | error fault =>
    apply Alone.next
    · intro probed
      rw [Stage.next, hmade]
    · exact Alone.refl r m _
  | ok _ =>
    dsimp only
    have hhoused : ∀ probed, Stage.cleared.next r.path files probed m.inode = (made, .housed) := by
      intro probed
      rw [Stage.next, hmade]
    apply Alone.next hhoused
    cases hbind : Binding.bind made r.path m.inode with
    | error failure =>
      apply Alone.next
      · intro probed
        rw [Stage.next, hbind]
      · exact Alone.refl r m _
    | ok after =>
      have htarget := (Binding.bind_names hbind).target
      have hbound : ∀ probed, Stage.housed.next r.path made probed m.inode
          = (after, .bound m.inode) := by
        intro probed
        rw [Stage.next, hbind]
      have hguarded : ∀ probed, (Stage.bound m.inode).next r.path after probed m.inode
          = (after, .guarded m.inode) := by
        intro probed
        rw [Stage.next, htarget]
      have hlistening : ∀ probed, (Stage.guarded m.inode).next r.path after probed m.inode
          = (after, .listening m.inode) := fun _ => rfl
      have hrunning : ∀ probed, (Stage.listening m.inode).next r.path after probed m.inode
          = (after, .running m.inode m.inode) := by
        intro probed
        rw [Stage.next, htarget]
      apply Alone.next hbound
      apply Alone.next hguarded
      apply Alone.next hlistening
      apply Alone.next hrunning
      exact Alone.refl r m _

/-- **The steps of a start that no one disturbs are a whole start**: the process is started with
its own inode, or stays without a listener, and the file tree is the same. -/
theorem alone_start (hidle : c.stage m.process = .idle) :
    Alone r m c (c.started m (Binding.start c.files r.path m.inode
      (Client.probe r.path r.timeout (c.contact r)))) := by
  have hput : c.put m.process (c.files, .idle) = c := by
    rw [← hidle]
    exact put_self c m.process
  have hstart : Alone r m (c.put m.process (c.files, .idle))
      (c.started m (Binding.start c.files r.path m.inode
        (Client.probe r.path r.timeout (c.contact r)))) := by
    unfold Binding.start Binding.clear
    cases hinspect : Binding.inspect c.files r.path with
    | error failure =>
      have hidle : ∀ probed, Stage.idle.next r.path c.files probed m.inode
          = (c.files, .idle) := by
        intro probed
        rw [Stage.next, hinspect]
      apply Alone.next hidle
      exact Alone.refl r m _
    | ok occupant =>
      cases occupant with
      | nothing =>
        have hnothing : ∀ probed, Stage.idle.next r.path c.files probed m.inode
            = (c.files, .cleared) := by
          intro probed
          rw [Stage.next, hinspect]
        apply Alone.next hnothing
        exact alone_of_cleared c m c.files
      | socket =>
        have hfound : ∀ probed, Stage.idle.next r.path c.files probed m.inode
            = (c.files, .found) := by
          intro probed
          rw [Stage.next, hinspect]
        apply Alone.next hfound
        apply Alone.step
        -- A process that has not bound yet is none that a connection could meet.
        rw [step_put, contact_put (by rw [hidle]; rfl), Stage.next]
        cases hjudge : Binding.judge r.path (Client.probe r.path r.timeout (c.contact r)) with
        | error failure => exact Alone.refl r m _
        | ok _ =>
          apply Alone.next (fun _ => rfl)
          exact alone_of_cleared c m (Binding.remove c.files r.path)
  rw [hput] at hstart
  exact hstart

/-! ### A close -/

/-- **The steps of a close that no one disturbs are a whole close.** -/
theorem alone_close {own known : Nat} (hrunning : c.stage m.process = .running own known) :
    Alone r m c (c.put m.process (Binding.close c.files r.path known, .idle)) := by
  have hput : c.put m.process (c.files, .running own known) = c := by
    rw [← hrunning]
    exact put_self c m.process
  have hclose : Alone r m (c.put m.process (c.files, .running own known))
      (c.put m.process (Binding.close c.files r.path known, .idle)) := by
    apply Alone.next (fun _ => rfl)
    apply Alone.step
    rw [step_put, Stage.next, Binding.close]
    cases htarget : c.files.target (Path.ofText r.path) with
    | error fault => exact Alone.refl r m _
    | ok node =>
      cases node with
      | socket other =>
        dsimp only
        by_cases hown : other = known
        · rw [if_pos hown, if_pos hown]
          apply Alone.next (fun _ => rfl)
          exact Alone.refl r m _
        · rw [if_neg hown, if_neg hown]
          exact Alone.refl r m _
      | _ => exact Alone.refl r m _
  rw [hput] at hclose
  exact hclose

end Contest

end ControlChannel
