import ControlChannel.Proofs.FlowingEnds
import ControlChannel.Proofs.NothingLeft
import ControlChannel.Proofs.ServiceRuns

/-!
# Serving beside a host, to the end

A run that has ended leaves nothing behind, wherever its serving was when the host failed.  What it
comes to is what the host came to, and as long as the host has not failed it serves as if there were
none.

* `Tenure.Holds` — a listener has its socket as long as its loop goes on, and no longer;
* `Hosted.Stepped`, `Hosted.stepped` — all that a step of a run can do;
* `Hosted.Keeps` — **what a run keeps**, with one lemma for a step and one for a run;
* `Hosted.exists_closing` — the one step in which a run touches the files;
* `Hosted.exists_end` — a run comes to its end;
* `Hosted.cleans_up` — all of this for every host, and every order in which things happen;
* `Service.hostFails_during`, `Service.after_during` — a service with a host that fails, or without
  one.
-/

namespace ControlChannel

variable {Facts Command : Type}

/-! ### A listener and its socket -/

namespace Tenure

/-- A listener that began like another one has its socket as long as its loop goes on. -/
structure Holds (l : Listener Facts) (t : Tenure Facts) : Prop where
  path : t.loop.listener.path = l.path
  settings : t.loop.listener.settings = l.settings
  bound : t.loop.stage ≠ .ended → t.loop.listener.inode = l.inode
  closed : t.loop.stage = .ended → t.loop.listener.inode = none
  waited : t.waited = true → t.loop.stage = .ended

variable {d : Dispatch Facts Command} {l : Listener Facts} {t : Tenure Facts}

theorem holds_begin (l : Listener Facts) (files : FileTree) :
    Holds l { loop := { listener := l }, files } :=
  ⟨rfl, rfl, fun _ => rfl, Loop.Stage.noConfusion, Bool.noConfusion⟩

theorem Turned.holds {next : Tenure Facts} (turned : Turned d t next) (h : Holds l t) :
    Holds l next := by
  have hunwaited : t.loop.stage ≠ .ended → t.waited = true → next.loop.stage = .ended :=
    fun going waited => absurd (h.waited waited) going
  cases turned with
  | rests stage backlog => exact h
  | accepts stage unretired backlog =>
    have hgoing : t.loop.stage ≠ .ended := by simp [stage]
    exact ⟨h.path, h.settings, fun _ => h.bound hgoing, Loop.Stage.noConfusion, hunwaited hgoing⟩
  | begins stage unretired =>
    have hgoing : t.loop.stage ≠ .ended := by simp [stage]
    exact ⟨h.path, h.settings, fun _ => h.bound hgoing, Loop.Stage.noConfusion, hunwaited hgoing⟩
  | hangs stage hung => exact h
  | @serves connection stage free =>
    have hgoing : t.loop.stage ≠ .ended := by simp [stage]
    have hlistener := t.loop.listener.acceptThrough_listener d connection
    refine ⟨?_, ?_, fun _ => ?_, Loop.Stage.noConfusion, hunwaited hgoing⟩
    · exact (congrArg Listener.path hlistener).trans h.path
    · exact (congrArg Listener.settings hlistener).trans h.settings
    · exact (congrArg Listener.inode hlistener).trans (h.bound hgoing)
  | ends going idle retired =>
    exact ⟨h.path, h.settings, fun going => absurd rfl going, fun _ => rfl, fun _ => rfl⟩
  | waits stage =>
    refine ⟨?_, ?_, ?_, ?_, fun _ => ?_⟩ <;> rw [wait_loop]
    exacts [h.path, h.settings, h.bound, h.closed, stage]

theorem step_holds (d : Dispatch Facts Command) (h : Holds l t) (move : Move) :
    Holds l (t.step d move) := by
  cases move with
  | loop move =>
    cases move with
    | turn => exact (turned d t).holds h
    | retire reason => exact ⟨h.path, h.settings, h.bound, h.closed, h.waited⟩
    | connect connection =>
      show Holds l { t with loop := t.loop.step d (.connect connection) }
      unfold Loop.step
      dsimp only
      split <;> exact ⟨h.path, h.settings, h.bound, h.closed, h.waited⟩
  | _ => exact ⟨h.path, h.settings, h.bound, h.closed, h.waited⟩

/-- **Serving that is broken off** closes the socket, wherever its loop was. -/
theorem interrupt_ends (d : Dispatch Facts Command) (going : t.loop.stage ≠ .ended)
    (i : Interruption) :
    (t.interrupt d i).loop.stage = .ended ∧
      (t.interrupt d i).files = (t.loop.listener.close t.files).2 := by
  unfold interrupt
  dsimp only
  split
  · exact ⟨rfl, rfl⟩
  · exact ⟨rfl, rfl⟩
  · exact ⟨rfl, rfl⟩
  · contradiction

theorem interrupt_holds (d : Dispatch Facts Command) (h : Holds l t) (i : Interruption) :
    Holds l (t.interrupt d i) := by
  unfold interrupt
  dsimp only
  split
  case h_4 => exact h
  all_goals
    exact ⟨h.path, h.settings, fun going => absurd rfl going, fun _ => rfl, fun _ => rfl⟩

/-- Where the socket is closed already, winding up changes nothing of it. -/
theorem windUp_of_ended (h : Holds l t) (ended : t.loop.stage = .ended) :
    t.windUp.loop = t.loop ∧ t.windUp.files = t.files := by
  unfold windUp waitFor Listener.close
  dsimp only
  rw [h.closed ended]
  exact ⟨rfl, rfl⟩

end Tenure

namespace Host

variable {host : Host}

theorem finish_of_ended (ended : host ≠ .working) (failure : Option Text) :
    host.finish failure = host := by
  cases host with
  | working => contradiction
  | _ => rfl

/-- A host that has not failed has not failed before. -/
theorem unfailed_of_finish {failure : Option Text}
    (h : ∀ message, host.finish failure ≠ .raised message) (message : Text) :
    host ≠ .raised message := by
  rintro rfl
  exact h message rfl

end Host

namespace Hosted

variable {d : Dispatch Facts Command} {l : Listener Facts} {r : Hosted Facts}

/-! ### A step -/

/-- What a step of a run comes to. -/
inductive Stepped (d : Dispatch Facts Command) (r : Hosted Facts) : Move → Hosted Facts → Prop
  | rests {move : Move}
    (still : servingMoves [move] = [] ∨ move = .serving (.loop .turn) ∧ r.stage.serves = false) :
    Stepped d r move r
  | serves (move : Tenure.Move) (runs : move = .loop .turn → r.stage.serves = true) :
    Stepped d r (.serving move) { r with tenure := r.tenure.step d move }
  | hears (failure : Option Text) :
    Stepped d r (.hostEnds failure) { r with host := r.host.finish failure }
  | cancels {message : Text} (stage : r.stage = .gathering) (failed : r.host = .raised message) :
    Stepped d r .turn { r with stage := .cancelling }
  | breaks (i : Interruption) (stage : r.stage = .cancelling)
    (going : r.tenure.loop.stage ≠ .ended) :
    Stepped d r (.interrupt i) { r with tenure := r.tenure.interrupt d i, stage := .unwinding }
  | skips (i : Interruption) (stage : r.stage = .cancelling)
    (ended : r.tenure.loop.stage = .ended) :
    Stepped d r (.interrupt i) { r with stage := .draining }
  | evades (stage : r.stage = .cancelling) : Stepped d r .evade { r with stage := .unwinding }
  | drains (stage : r.stage = .gathering ∧ r.host ≠ .working ∨ r.stage = .unwinding)
    (waited : r.tenure.waited = true) : Stepped d r .turn { r with stage := .draining }
  | winds (stage : r.stage = .draining) :
    Stepped d r .turn { r with tenure := r.tenure.windUp, stage := .ended r.host.outcome }

/-- These are all the things that a step can do. -/
theorem stepped (d : Dispatch Facts Command) (r : Hosted Facts) (move : Move) :
    Stepped d r move (r.step d move) := by
  cases move with
  | hostEnds failure => exact .hears failure
  | serving move =>
    unfold step
    split
    · rename_i hmove
      cases hmove
      cases hserves : r.stage.serves with
      | true => exact .serves (.loop .turn) fun _ => hserves
      | false => exact .rests (.inr ⟨rfl, hserves⟩)
    · rename_i hother hmove
      cases hmove
      exact .serves _ fun hturn => absurd hturn hother
    all_goals contradiction
  | interrupt i =>
    show Stepped d r (.interrupt i) (r.breakOff d i)
    unfold breakOff
    split
    · exact .skips i ‹_› ‹_›
    · rename_i hstage hgoing
      exact .breaks i hstage hgoing
    · exact .rests (.inl rfl)
  | evade =>
    show Stepped d r .evade r.evade
    unfold evade
    split
    · exact .evades ‹_›
    · exact .rests (.inl rfl)
  | turn =>
    show Stepped d r .turn r.turn
    unfold turn
    split
    · rename_i hstage
      split
      · exact .rests (.inl rfl)
      · rename_i hhost
        split_ifs with hwaited
        · exact .drains (.inl ⟨hstage, by simp [hhost]⟩) hwaited
        · exact .rests (.inl rfl)
      · rename_i message hhost
        split_ifs with hwaited
        · exact .drains (.inl ⟨hstage, by simp [hhost]⟩) hwaited
        · exact .cancels hstage hhost
    · exact .rests (.inl rfl)
    · rename_i hstage
      split_ifs with hwaited
      · exact .drains (.inr hstage) hwaited
      · exact .rests (.inl rfl)
    · rename_i hstage
      exact .winds hstage
    · exact .rests (.inl rfl)

theorem servingMoves_append (moves later : List Move) :
    servingMoves (moves ++ later) = servingMoves moves ++ servingMoves later :=
  List.filterMap_append

/-! ### What a run keeps -/

/-- A run that began with a tenure keeps this, when all of that has happened. -/
structure Keeps (d : Dispatch Facts Command) (begun : Tenure Facts) (past : List Move)
    (r : Hosted Facts) : Prop where
  holds : r.tenure.Holds begun.loop.listener
  /-- Serving is broken off only for a host that failed. -/
  failed : r.stage = .cancelling ∨ r.stage = .unwinding → ∃ message, r.host = .raised message
  settled : r.stage = .draining ∨ (∃ outcome, r.stage = .ended outcome) →
    r.tenure.loop.stage = .ended ∧ r.host ≠ .working
  outcome : ∀ outcome, r.stage = .ended outcome → outcome = r.host.outcome
  /-- Until that is noticed, everything is served as if there were no host. -/
  whole : r.stage = .gathering → r.tenure = begun.run d (servingMoves past)
  /-- And so it is with the loop as long as the host has not failed. -/
  alone : (∀ message, r.host ≠ .raised message) →
    r.tenure.loop = begun.loop.run d (Tenure.loopMoves (servingMoves past))
  /-- Serving that was broken off is over, unless it evaded that. -/
  broken : .evade ∉ past → r.stage = .unwinding → r.tenure.loop.stage = .ended

variable {begun : Tenure Facts} {past : List Move}

theorem keeps_begin (d : Dispatch Facts Command) (l : Listener Facts) (files : FileTree)
    (host : Host) : Keeps d { loop := { listener := l }, files } [] (begin l files host) where
  holds := Tenure.holds_begin l files
  failed := by simp [begin]
  settled := by simp [begin]
  outcome := by simp [begin]
  whole := fun _ => rfl
  alone := fun _ => rfl
  broken := fun _ h => Stage.noConfusion h

/-- **A host that failed** has the serving broken off. -/
theorem keeps_failing {message : Text} (failed : r.host = .raised message) {t : Tenure Facts}
    {move : Move} {stage : Stage} (holds : t.Holds begun.loop.listener)
    (breaking : stage = .cancelling ∨ stage = .unwinding)
    (broken : move ≠ .evade → stage = .unwinding → t.loop.stage = .ended) :
    Keeps d begun (past ++ [move]) { r with tenure := t, stage } := by
  refine ⟨holds, fun _ => ⟨message, failed⟩, fun settled => ?_, fun outcome hstage => ?_,
    fun hstage => ?_, fun unfailed => absurd failed (unfailed message), fun persists => broken ?_⟩
  · obtain rfl | rfl := breaking <;> simp at settled
  · obtain rfl | rfl := breaking <;> cases hstage
  · obtain rfl | rfl := breaking <;> cases hstage
  · rintro rfl
    exact persists (List.mem_append_right _ List.mem_cons_self)

namespace Keeps

variable (h : Keeps d begun past r)
include h

/-- Behind the end of its loop serving does nothing any more. -/
theorem run_ended (ended : r.tenure.loop.stage = .ended)
    (unfailed : ∀ message, r.host ≠ .raised message) :
    r.tenure.loop =
      begun.loop.run d (Tenure.loopMoves (servingMoves (past ++ [.serving (.loop .turn)]))) := by
  have hmoves : Tenure.loopMoves (servingMoves (past ++ [.serving (.loop .turn)])) =
      Tenure.loopMoves (servingMoves past) ++ [.turn] := by
    rw [servingMoves_append]
    exact List.filterMap_append
  rw [hmoves, Loop.run_append, ← h.alone unfailed]
  simp [Loop.step, Loop.turn, ended]

/-- **What happens to the serving.** -/
theorem serving (move : Tenure.Move) :
    Keeps d begun (past ++ [.serving move]) { r with tenure := r.tenure.step d move } := by
  have hended : r.tenure.loop.stage = .ended → (r.tenure.step d move).loop.stage = .ended :=
    fun ended => Tenure.step_ended d ended move
  have hmoves : servingMoves (past ++ [.serving move]) = servingMoves past ++ [move] :=
    servingMoves_append past _
  refine ⟨Tenure.step_holds d h.holds move, h.failed, ?_, h.outcome, fun stage => ?_,
    fun unfailed => ?_, fun persists stage => ?_⟩
  · exact fun settled => ⟨hended (h.settled settled).1, (h.settled settled).2⟩
  · rw [hmoves, Tenure.run_append, ← h.whole stage]
    rfl
  · show (r.tenure.step d move).loop = _
    rw [hmoves, Tenure.loopMoves, List.filterMap_append, Loop.run_append]
    have halone := h.alone unfailed
    rw [Tenure.loopMoves] at halone
    rw [← halone, Tenure.step_loop]
    rfl
  · exact hended (h.broken (fun hmem => persists (List.mem_append_left _ hmem)) stage)

/-- **What is no matter of the serving** leaves it as it was. -/
theorem resting {move : Move}
    (still : servingMoves [move] = [] ∨ move = .serving (.loop .turn) ∧ r.stage.serves = false)
    {host : Host} (kept : r.host ≠ .working → host = r.host)
    (unfailed : (∀ message, host ≠ .raised message) → ∀ message, r.host ≠ .raised message) :
    Keeps d begun (past ++ [move]) { r with host } := by
  have hmoves : servingMoves [move] = [] → servingMoves (past ++ [move]) = servingMoves past := by
    intro hnone
    rw [servingMoves_append, hnone, List.append_nil]
  refine ⟨h.holds, fun stage => ?_, fun settled => ?_, fun outcome stage => ?_, fun stage => ?_,
    fun hhost => ?_, fun persists stage => ?_⟩
  · obtain ⟨message, hmessage⟩ := h.failed stage
    exact ⟨message, (kept (by simp [hmessage])).trans hmessage⟩
  · obtain ⟨hended, hover⟩ := h.settled settled
    exact ⟨hended, kept hover ▸ hover⟩
  · have hover := (h.settled (.inr ⟨outcome, stage⟩)).2
    show outcome = host.outcome
    rw [kept hover]
    exact h.outcome outcome stage
  · obtain hnone | ⟨_, hserves⟩ := still
    · rw [hmoves hnone]
      exact h.whole stage
    · rw [show r.stage = .gathering from stage] at hserves
      cases hserves
  · obtain hnone | ⟨rfl, hserves⟩ := still
    · rw [hmoves hnone]
      exact h.alone (unfailed hhost)
    · refine h.run_ended ?_ (unfailed hhost)
      cases hstage : r.stage with
      | gathering => rw [hstage] at hserves; cases hserves
      | unwinding => rw [hstage] at hserves; cases hserves
      | draining => exact (h.settled (.inl hstage)).1
      | ended outcome => exact (h.settled (.inr ⟨outcome, hstage⟩)).1
      | cancelling =>
        obtain ⟨message, hmessage⟩ := h.failed (.inl hstage)
        exact absurd hmessage (unfailed hhost message)
  · exact h.broken (fun hmem => persists (List.mem_append_left _ hmem)) stage

/-- **Whoever is done with the serving** finds its loop at its end. -/
theorem draining (ended : r.tenure.loop.stage = .ended) (settled : r.host ≠ .working) (move : Move)
    (still : servingMoves [move] = []) :
    Keeps d begun (past ++ [move]) { r with stage := .draining } := by
  refine ⟨h.holds, by simp, fun _ => ⟨ended, settled⟩, fun _ stage => Stage.noConfusion stage,
    fun stage => Stage.noConfusion stage, fun unfailed => ?_, fun _ _ => ended⟩
  rw [servingMoves_append, still, List.append_nil]
  exact h.alone unfailed

end Keeps

/-- **One step.** -/
theorem step_keeps (h : Keeps d begun past r) (move : Move) :
    Keeps d begun (past ++ [move]) (r.step d move) := by
  have hstepped := stepped d r move
  generalize r.step d move = next at hstepped
  cases hstepped with
  | rests still => exact h.resting still (fun _ => rfl) id
  | serves move runs => exact h.serving move
  | hears failure =>
    exact h.resting (.inl rfl) (fun ended => Host.finish_of_ended ended failure)
      fun unfailed => Host.unfailed_of_finish unfailed
  | cancels stage failed => exact keeps_failing failed h.holds (.inl rfl) fun _ => Stage.noConfusion
  | breaks i stage going =>
    obtain ⟨message, hmessage⟩ := h.failed (.inl stage)
    exact keeps_failing hmessage (Tenure.interrupt_holds d h.holds i) (.inr rfl)
      fun _ _ => (Tenure.interrupt_ends d going i).1
  | skips i stage ended =>
    obtain ⟨message, hmessage⟩ := h.failed (.inl stage)
    exact h.draining ended (by simp [hmessage]) _ rfl
  | evades stage =>
    obtain ⟨message, hmessage⟩ := h.failed (.inl stage)
    exact keeps_failing hmessage h.holds (.inr rfl) fun hmove => absurd rfl hmove
  | drains stage waited =>
    refine h.draining (h.holds.waited waited) ?_ _ rfl
    obtain ⟨_, hhost⟩ | hstage := stage
    · exact hhost
    · obtain ⟨message, hmessage⟩ := h.failed (.inr hstage)
      simp [hmessage]
  | winds stage =>
    obtain ⟨hended, hover⟩ := h.settled (.inl stage)
    obtain ⟨hloop, _⟩ := Tenure.windUp_of_ended h.holds hended
    have hholds := h.holds
    refine ⟨⟨?_, ?_, ?_, ?_, ?_⟩, by simp, fun _ => ⟨?_, hover⟩, ?_, Stage.noConfusion, ?_, ?_⟩
    · rw [hloop]
      exact hholds.path
    · rw [hloop]
      exact hholds.settings
    · rw [hloop]
      exact hholds.bound
    · rw [hloop]
      exact hholds.closed
    · rw [hloop]
      exact hholds.waited
    · rw [hloop]
      exact hended
    · exact fun outcome hstage => (Stage.ended.inj hstage).symm
    · intro unfailed
      rw [hloop, servingMoves_append, show servingMoves [.turn] = [] from rfl, List.append_nil]
      exact h.alone unfailed
    · exact fun _ => Stage.noConfusion

/-- **A run.** -/
theorem run_keeps (h : Keeps d begun past r) (moves : List Move) :
    Keeps d begun (past ++ moves) (r.run d moves) := by
  induction moves generalizing r past with
  | nil => rwa [List.append_nil]
  | cons move moves ih =>
    have hnext := ih (step_keeps h move)
    rwa [List.append_assoc] at hnext

/-- **What a run keeps from its beginning.** -/
theorem keeps_run (d : Dispatch Facts Command) (l : Listener Facts) (files : FileTree) (host : Host)
    (moves : List Move) :
    Keeps d { loop := { listener := l }, files } moves ((begin l files host).run d moves) :=
  run_keeps (keeps_begin d l files host) moves

/-! ### The files -/

open Tenure (filesLeft)

/-- **As long as serving goes on, and behind its end**, a step leaves the files as others do. -/
theorem step_files (h : Keeps d begun past r) (move : Move)
    (hgoing : r.tenure.loop.stage = .ended ∨ (r.step d move).tenure.loop.stage ≠ .ended) :
    (r.step d move).tenure.files = filesLeft r.tenure.files (servingMoves [move]) := by
  have hstepped := stepped d r move
  generalize r.step d move = next at hstepped hgoing
  cases hstepped with
  | rests still =>
    obtain hnone | ⟨rfl, _⟩ := still
    · rw [hnone]
      rfl
    · rfl
  | serves move runs => exact Tenure.step_files d move hgoing
  | breaks i stage going =>
    exact absurd (Tenure.interrupt_ends d going i).1 (hgoing.resolve_left going)
  | winds stage => exact (Tenure.windUp_of_ended h.holds (h.settled (.inl stage)).1).2
  | _ => rfl

/-- **The step that ends the serving** closes the socket. -/
theorem step_closes (h : Keeps d begun past r) (move : Move) (going : r.tenure.loop.stage ≠ .ended)
    (ended : (r.step d move).tenure.loop.stage = .ended) :
    (r.step d move).tenure.files = (r.tenure.loop.listener.close r.tenure.files).2 := by
  have hstepped := stepped d r move
  generalize r.step d move = next at hstepped ended
  cases hstepped with
  | serves move runs => exact (Tenure.step_closes d move going ended).2
  | breaks i stage _ => exact (Tenure.interrupt_ends d going i).2
  | winds stage => exact absurd (h.settled (.inl stage)).1 going
  | _ => exact absurd ended going

theorem step_ended (h : Keeps d begun past r) (ended : r.tenure.loop.stage = .ended) (move : Move) :
    (r.step d move).tenure.loop.stage = .ended := by
  have hstepped := stepped d r move
  generalize r.step d move = next at hstepped
  cases hstepped with
  | serves move runs => exact Tenure.step_ended d ended move
  | breaks i stage going => exact (Tenure.interrupt_ends d going i).1
  | winds stage =>
    show r.tenure.windUp.loop.stage = .ended
    rw [(Tenure.windUp_of_ended h.holds ended).1]
    exact ended
  | _ => exact ended

theorem filesLeft_servingMoves_cons (files : FileTree) (move : Move) (moves : List Move) :
    filesLeft files (servingMoves (move :: moves)) =
      filesLeft (filesLeft files (servingMoves [move])) (servingMoves moves) := by
  cases move with
  | serving move => exact Tenure.filesLeft_cons files move (servingMoves moves)
  | _ => rfl

theorem run_files_of_ended (h : Keeps d begun past r) (ended : r.tenure.loop.stage = .ended)
    (moves : List Move) :
    (r.run d moves).tenure.files = filesLeft r.tenure.files (servingMoves moves) := by
  induction moves generalizing r past with
  | nil => rfl
  | cons move moves ih =>
    rw [filesLeft_servingMoves_cons, ← step_files h move (.inl ended)]
    exact ih (step_keeps h move) (step_ended h ended move)

/-- **A run whose serving has ended** has touched the files in one step: they are what others made
of them, with the socket closed in between. -/
theorem exists_closing (h : Keeps d begun past r) (going : r.tenure.loop.stage ≠ .ended)
    {moves : List Move} (ended : (r.run d moves).tenure.loop.stage = .ended) :
    ∃ before move after, moves = before ++ move :: after ∧
      (r.run d before).tenure.loop.stage ≠ .ended ∧
      (r.run d moves).tenure.files =
        filesLeft ((r.run d before).tenure.loop.listener.close
          (filesLeft r.tenure.files (servingMoves before))).2 (servingMoves after) := by
  induction moves generalizing r past with
  | nil => exact absurd ended going
  | cons move moves ih =>
    have hkeeps := step_keeps h move
    by_cases hnext : (r.step d move).tenure.loop.stage = .ended
    · refine ⟨[], move, moves, rfl, going, ?_⟩
      rw [run_cons, run_files_of_ended hkeeps hnext, step_closes h move going hnext]
      rfl
    · obtain ⟨before, closing, after, rfl, hgoing, hfiles⟩ := ih hkeeps hnext ended
      refine ⟨move :: before, closing, after, rfl, hgoing, ?_⟩
      rw [filesLeft_servingMoves_cons, ← step_files h move (.inr hnext)]
      exact hfiles

/-! ### The releases -/

/-- Something that happens while nothing hangs. -/
def Move.Flows : Move → Prop
  | .serving move => move.Flows
  | _ => True

instance : (move : Move) → Decidable move.Flows
  | .serving move => inferInstanceAs (Decidable move.Flows)
  | .hostEnds _ => isTrue trivial
  | .interrupt _ => isTrue trivial
  | .evade => isTrue trivial
  | .turn => isTrue trivial

/-- What a run keeps while nothing hangs: when it has ended, no release is under way. -/
structure Flows (begun : Tenure Facts) (r : Hosted Facts) : Prop where
  tenure : r.tenure.Flows
  settled : begun.loop.listener.settings.closeTimeout.IsPositive →
    (∃ outcome, r.stage = .ended outcome) → ∀ e ∈ r.tenure.ends, e.pending = 0

/-- The turns of the serving and of the run itself, with an interruption before them: what happens
when nothing else does. -/
def windingUp (i : Interruption) (turns : Nat) : List Move :=
  [.turn, .interrupt i] ++ List.replicate turns (.serving (.loop .turn)) ++ [.turn, .turn]

/-- A listener with nothing on its path. -/
def idle : Site Unit where
  machine := { files := { entries := [] } }
  listener := { (Tenure.attended (.ofInt 1)).loop.listener with inode := none }
  address := "ctl.sock"

end Hosted

namespace Service

variable (d : Dispatch ServiceState Command) {s : Service}

/-- **A host that fails while nobody is served** ends the run of a service, its clean-up
included. -/
theorem hostFails_during (running : s.ended = none) (message : Text) (i : Interruption) :
    s.hostFails message =
      s.during ((Hosted.begin s.site.listener s.site.machine.files .working).run d
        (.hostEnds (some message) :: Hosted.windingUp i 1)) := by
  have hclosed := s.site.listener.close_fst s.site.machine.files
  have hagain : ∀ files, Listener.close { s.site.listener with inode := none } files =
      ({ s.site.listener with inode := none }, files) := fun _ => rfl
  have hbroken : (Hosted.begin s.site.listener s.site.machine.files .working).run d
      [.hostEnds (some message), .turn, .interrupt i] =
        { tenure :=
            { loop := Loop.finish { listener := s.site.listener }
              files := (s.site.listener.close s.site.machine.files).2 }
          host := .raised message
          stage := .unwinding } := by
    simp [Hosted.begin, Hosted.step, Host.finish, Hosted.turn, Hosted.breakOff, Tenure.interrupt]
  rw [show Hosted.Move.hostEnds (some message) :: Hosted.windingUp i 1 =
      [.hostEnds (some message), .turn, .interrupt i] ++ [.serving (.loop .turn), .turn, .turn] from
    rfl, Hosted.run_append, hbroken]
  simp [Hosted.step, Hosted.Stage.serves, Tenure.turn, Loop.finish, Tenure.wait, Hosted.turn,
    Tenure.windUp, Tenure.waitFor, hagain, during, hostFails, running, Site.close, hclosed,
    Host.outcome]

/-- **A run whose serving is over** ends with that if its host has returned, or there is none. -/
theorem after_during {t : Tenure ServiceState} (waited : t.waited = true)
    (unbound : t.loop.listener.inode = none) :
    s.after t = s.during (Hosted.run d { tenure := t, host := .returned } [.turn, .turn]) := by
  have hclosed : ∀ files, t.loop.listener.close files = (t.loop.listener, files) := by
    intro files
    rw [Listener.close, unbound]
  rw [after_of_waited s waited unbound]
  simp [Hosted.step, Hosted.turn, waited, Tenure.windUp, Tenure.waitFor, hclosed, during,
    Host.outcome]

end Service

end ControlChannel
