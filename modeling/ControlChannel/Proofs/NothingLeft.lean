import ControlChannel.Proofs.BoundSocket
import ControlChannel.Proofs.TenureRuns

/-!
# Serving leaves nothing behind

When serving is over, every connection that it accepted is closed, and no release is under way.  The
listener touches the files only when it closes its socket, and nothing but the file that it bound.

* `Binding.Relinquishes`, `Binding.close_relinquishes` — **the file goes exactly if it is still the one
  that was bound**;
* `Tenure.filesLeft`, `Tenure.exists_closing` — the one turn in which a listener touches the files;
* `Tenure.serve_leaves_nothing` — all of this for every run that ends.
-/

namespace ControlChannel

variable {Facts Command : Type}

/-! ### The socket file -/

namespace Binding

/-- What the closing of a socket does to the files: if the path still leads to the socket file that was
bound, then nothing lies at the path any more and everything else is as it was.  Otherwise all of the
files are as they were. -/
structure Relinquishes (path : Text) (inode : Nat) (files after : FileTree) : Prop where
  gone : files.target (Path.ofText path) = .ok (.socket inode) →
    after.node (Path.ofText path) = .error .noEntry
  others : ∀ place, files.locate (Path.ofText path) ≠ .ok place → after.get? place = files.get? place
  kept : files.target (Path.ofText path) ≠ .ok (.socket inode) → after = files

/-- What lies at a path that leads to a socket is the socket, or a link. -/
theorem locate_of_target {files : FileTree} {path : Path} {inode : Nat}
    (h : files.target path = .ok (.socket inode)) :
    ∃ place, files.locate path = .ok place ∧ files.get? place ≠ some .directory := by
  obtain ⟨resolved, hresolve, hsocket⟩ := FileTree.target_eq_ok_iff.1 h
  obtain ⟨place, hlocate, hend⟩ := FileTree.locate_of_resolve hresolve
  refine ⟨place, hlocate, fun hdirectory => ?_⟩
  obtain rfl | ⟨next, hlink⟩ := hend
  · rw [hdirectory] at hsocket
    cases hsocket
  · rw [hdirectory] at hlink
    cases hlink

theorem close_relinquishes (path : Text) (inode : Nat) (files : FileTree) :
    Relinquishes path inode files (close files path inode) := by
  by_cases htarget : files.target (Path.ofText path) = .ok (.socket inode)
  · obtain ⟨place, hlocate, hplace⟩ := locate_of_target htarget
    have hinside := FileTree.inside_of_get?_ne hplace
    have hclose : close files path inode = files.erase place := by
      simp [close, htarget, remove, hlocate]
    rw [hclose]
    exact ⟨fun _ => FileTree.node_of_erased hinside hlocate,
      fun other hother => FileTree.get?_erase_other files fun hsame => hother (hsame ▸ hlocate),
      fun h => absurd htarget h⟩
  · have hclose : close files path inode = files := by
      unfold close
      split
      · rename_i other hother
        split_ifs with hsame
        · rw [hsame] at hother
          exact absurd hother htarget
        · rfl
      · rfl
    rw [hclose]
    exact ⟨fun h => absurd h htarget, fun _ _ => rfl, fun _ => rfl⟩

end Binding

namespace Tenure

variable {d : Dispatch Facts Command} {t : Tenure Facts}

/-! ### The one turn in which the files are touched -/

/-- The files as others leave them. -/
def filesLeft (files : FileTree) (moves : List Move) : FileTree :=
  (moves.filterMap fun
    | .files files => some files
    | _ => none).getLastD files

theorem filesLeft_cons (files : FileTree) (move : Move) (moves : List Move) :
    filesLeft files (move :: moves) = filesLeft (filesLeft files [move]) moves := by
  cases move with
  | files changed => exact List.getLastD_cons
  | _ => rfl

/-- A loop that has ended stays so. -/
theorem step_ended (d : Dispatch Facts Command) (ended : t.loop.stage = .ended) (move : Move) :
    (t.step d move).loop.stage = .ended := by
  cases move with
  | loop move =>
    cases move with
    | turn =>
      show (t.turn d).loop.stage = .ended
      unfold turn
      rw [ended]
      show t.wait.loop.stage = .ended
      rw [wait_loop]
      exact ended
    | connect connection =>
      show (t.loop.step d (.connect connection)).stage = .ended
      rw [Loop.step, ended]
      exact ended
    | retire reason => exact ended
  | _ => exact ended

/-- **As long as the loop goes on, and behind its end**, a step leaves the files as others do. -/
theorem step_files (d : Dispatch Facts Command) (move : Move)
    (h : t.loop.stage = .ended ∨ (t.step d move).loop.stage ≠ .ended) :
    (t.step d move).files = filesLeft t.files [move] := by
  cases move with
  | loop move =>
    cases move with
    | turn =>
      have hturned := turned d t
      change t.loop.stage = .ended ∨ (t.turn d).loop.stage ≠ .ended at h
      show (t.turn d).files = t.files
      generalize t.turn d = next at hturned h
      cases hturned with
      | ends going idle retired => exact absurd rfl (h.resolve_left going)
      | waits stage => exact wait_files t
      | _ => rfl
    | _ => rfl
  | _ => rfl

/-- **The turn that ends the loop** closes the socket. -/
theorem step_closes (d : Dispatch Facts Command) (move : Move) (going : t.loop.stage ≠ .ended)
    (ended : (t.step d move).loop.stage = .ended) :
    move = .loop .turn ∧ (t.step d move).files = (t.loop.listener.close t.files).2 := by
  cases move with
  | loop move =>
    cases move with
    | turn =>
      have hturned := turned d t
      change (t.turn d).loop.stage = .ended at ended
      show _ ∧ (t.turn d).files = _
      generalize t.turn d = next at hturned ended
      cases hturned with
      | ends _ idle retired => exact ⟨rfl, rfl⟩
      | rests stage backlog => exact absurd ended going
      | hangs stage hung => exact absurd ended going
      | waits stage => exact absurd stage going
      | _ => cases ended
    | connect connection =>
      have hstage : (t.loop.step d (.connect connection)).stage = .ended := ended
      unfold Loop.step at hstage
      dsimp only at hstage
      split at hstage <;> exact absurd hstage going
    | retire reason => exact absurd ended going
  | _ => exact absurd ended going

theorem run_files_of_ended (d : Dispatch Facts Command) (ended : t.loop.stage = .ended)
    (moves : List Move) : (t.run d moves).files = filesLeft t.files moves := by
  induction moves generalizing t with
  | nil => rfl
  | cons move moves ih =>
    rw [filesLeft_cons, ← step_files d move (.inl ended)]
    exact ih (step_ended d ended move)

/-- **A run that ends** touches the files in one turn: they are what others made of them, with the
socket closed in between. -/
theorem exists_closing (d : Dispatch Facts Command) (going : t.loop.stage ≠ .ended) {moves : List Move}
    (ended : (t.run d moves).loop.stage = .ended) :
    ∃ before after, moves = before ++ .loop .turn :: after ∧ (t.run d before).loop.stage ≠ .ended ∧
      (t.run d moves).files =
        filesLeft ((t.run d before).loop.listener.close (filesLeft t.files before)).2 after := by
  induction moves generalizing t with
  | nil => exact absurd ended going
  | cons move moves ih =>
    by_cases hnext : (t.step d move).loop.stage = .ended
    · obtain ⟨rfl, hfiles⟩ := step_closes d move going hnext
      refine ⟨[], moves, rfl, going, ?_⟩
      rw [run_cons, run_files_of_ended d hnext, hfiles]
      rfl
    · obtain ⟨before, after, rfl, hgoing, hfiles⟩ := ih hnext ended
      refine ⟨move :: before, after, rfl, hgoing, ?_⟩
      rw [filesLeft_cons, ← step_files d move (.inr hnext)]
      exact hfiles

/-! ### The end -/

/-- No release is under way if that of no connection is. -/
theorem pending_eq_zero (h : ∀ e ∈ t.ends, e.pending = 0) : t.pending = 0 := by
  have hnone : ∀ ends : List WritingEnd, (∀ e ∈ ends, e.pending = 0) →
      ends.foldr (·.pending + ·) 0 = 0 := by
    intro ends
    induction ends with
    | nil => exact fun _ => rfl
    | cons first later ih =>
      intro hends
      obtain ⟨hfirst, hlater⟩ := List.forall_mem_cons.1 hends
      rw [List.foldr_cons, hfirst, ih hlater]
  exact hnone t.ends h

/-- A listener that has served connections keeps its path. -/
theorem path_of_serves {l : Listener Facts} {came seen : List Connection} {loop : Loop Facts}
    (h : loop.Serves d l came seen) : loop.listener.path = l.path := by
  have hpath := congrArg Listener.path h.core
  exact hpath.trans (l.serveAll_path d seen)

/-- Where the transports make progress, nothing hangs on those who come. -/
theorem arrivals_flow {moves : List Move} (steady : ∀ move ∈ moves, move.Steady) :
    ∀ connection ∈ arrivals moves, Weather.Flows connection.weather := by
  intro connection hmem
  obtain ⟨k, hk⟩ := List.mem_iff_getElem?.1 hmem
  exact ((steadyAt_of_steady steady k).1 connection hk).flows

/-- **Serving leaves nothing behind**, for every listener that is bound, every handler, and all that
happens in any order until serving is over, as far as the transports make progress and the time for
closing is above zero.

* Those who were accepted came first, and each of them has its writing end.
* Each of these is closed, once.
* Behind what the handler said on a connection that was served with a command, the terminal message
  was given away and nothing after it.
* No release is under way.
* The socket is closed, and closing it again changes nothing.
* The files are what others made of them, but that the socket file was removed in one turn if it was
  still the one at the path.

Once the token is retired, serving comes to its end. -/
theorem serve_leaves_nothing (d : Dispatch Facts Command) {l : Listener Facts} {inode : Nat}
    (bound : l.inode = some inode) (positive : l.settings.closeTimeout.IsPositive) (files : FileTree)
    {moves : List Move} (steady : ∀ move ∈ moves, move.Steady) :
    let begun : Tenure Facts := { loop := { listener := l }, files }
    let t := begun.run d moves
    let accepted := begun.accepted d moves
    let runs := d.runs l.settings l.facts (accepted.take t.loop.served.length)
    (t.waited = true →
      (accepted <+: arrivals moves ∧ t.ends.length = accepted.length) ∧
      (∀ e ∈ t.ends, e.transport.closes = 1) ∧
      (∀ k connection, accepted[k]? = some connection → k < t.loop.served.length →
        (d.command? l.settings connection.delivery).isSome →
        ∃ e run, t.ends[k]? = some e ∧ runs[k]? = some (some run) ∧
          e.transport.taken = run.spoken.map .packet ++ [.closeSocket]) ∧
      t.pending = 0 ∧
      (t.loop.listener.inode = none ∧
        ∀ files, t.loop.listener.close files = (t.loop.listener, files)) ∧
      ∃ before after left, moves = before ++ .loop .turn :: after ∧
        Binding.Relinquishes l.path inode (filesLeft files before) left ∧
        t.files = filesLeft left after) ∧
    (t.loop.listener.token.retired = true →
      ∃ turns, (t.run d (List.replicate turns (.loop .turn))).waited = true) := by
  intro begun t accepted runs
  have hkeeps : Keeps d l (SteadyAt moves) (arrivals moves) accepted t := keeps_run d l files moves
  refine ⟨fun waited => ?_, fun retired => ?_⟩
  swap
  · have through := l.getsThrough_of_flows d (arrivals_flow steady)
    exact (t.exists_rest d (hkeeps.serves.getsThrough through)).imp fun _ hrest => hrest.2 retired
  have hended := hkeeps.waited waited
  have hcount : t.ends.length = accepted.length := by
    have hcount := hkeeps.count
    rw [hended] at hcount
    exact hcount
  have hseen : (arrivals moves).take t.loop.served.length = accepted.take t.loop.served.length := by
    obtain ⟨later, hlater⟩ := hkeeps.first
    rw [← hlater]
    exact List.take_append_of_le_length (hcount ▸ hkeeps.engaged)
  have hleft : ∀ (k : Nat) (e : WritingEnd), t.ends[k]? = some e →
      e.Left l.settings.closeTimeout (SteadyAt moves k) true runs[k]?.join := by
    intro k e he
    have heach := hkeeps.each k e he
    rwa [waited, hseen] at heach
  have hsocket := hkeeps.socket hended
  refine ⟨⟨hkeeps.first, hcount⟩, fun e he => ?closed, fun k connection hk hserved hcommand => ?told,
    pending_eq_zero fun e he => ?pending, ⟨hsocket, fun files => ?again⟩, ?files⟩
  case closed =>
    obtain ⟨k, hk⟩ := List.mem_iff_getElem?.1 he
    exact ((hleft k e hk).released (steadyAt_of_steady steady k) positive).1
  case told =>
    obtain ⟨command, hcommand⟩ := Option.isSome_iff_exists.1 hcommand
    have hrun := d.getElem?_runs_take l accepted hserved
    rw [hk, Option.map_some, hcommand, Option.map_some] at hrun
    have hlt : k < t.ends.length := hcount ▸ (List.getElem?_eq_some_iff.1 hk).1
    have hend := hleft k _ (List.getElem?_eq_getElem hlt)
    rw [hrun] at hend
    obtain ⟨htaken, _⟩ := (hend.tells (steadyAt_of_steady steady k) positive).1.all rfl
    exact ⟨_, _, List.getElem?_eq_getElem hlt, hrun, htaken⟩
  case pending =>
    obtain ⟨k, hk⟩ := List.mem_iff_getElem?.1 he
    exact ((hleft k e hk).released (steadyAt_of_steady steady k) positive).2
  case again =>
    rw [Listener.close, hsocket]
  case files =>
    obtain ⟨before, after, hmoves, hgoing, hfiles⟩ :=
      exists_closing d (t := begun) Loop.Stage.noConfusion hended
    have hbefore := (keeps_run d l files before).serves
    refine ⟨before, after, _, hmoves, ?_, hfiles⟩
    rw [Listener.close, hbefore.socket hgoing, bound, path_of_serves hbefore]
    exact Binding.close_relinquishes l.path inode _

/-- A listener on its socket, with a time for closing. -/
def attended (closeTimeout : Double) : Tenure Unit where
  loop :=
    { listener :=
        { path := "ctl.sock"
          settings := { pid := 4242, requestTimeout := .whole 2, closeTimeout }
          facts := ()
          inode := some 7 } }
  files := { entries := [(⟨false, ["ctl.sock"]⟩, .socket 7)] }

/-- A client with a command. -/
def caller : Connection :=
  { delivery := { bytes := ((Frame.encode (.args ["prog", "hi"])).toOption).getD [] } }

/-- A caller is served, another file comes to the path, and the token is retired while the next caller
is accepted. -/
def replaced : List Move :=
  [.loop (.connect caller), .loop .turn, .loop .turn, .loop .turn,
    .files { entries := [(⟨false, ["ctl.sock"]⟩, .file [])] },
    .loop (.connect caller), .loop .turn, .loop (.retire "stop"), .loop .turn, .loop .turn]

/-- The first caller is told the end, both are closed, and no release is under way. -/
theorem replaced_leaves_nothing :
    let t := (attended (.ofInt 1)).run Dispatch.greeter replaced
    t.waited = true ∧ t.ends.length = 2 ∧ (∀ e ∈ t.ends, e.transport.closes = 1) ∧ t.pending = 0 ∧
      ∃ said : List Text,
        t.ends[0]?.map (·.transport.taken) = some (said.map .packet ++ [.closeSocket]) := by
  intro t
  have waited : t.waited = true := by decide +kernel
  have hsteady : ∀ move ∈ replaced, move.Steady := by decide +kernel
  obtain ⟨⟨_, hcount⟩, hclosed, htold, hpending, _, _⟩ :=
    (serve_leaves_nothing Dispatch.greeter (l := (attended (.ofInt 1)).loop.listener) rfl (by decide)
      (attended (.ofInt 1)).files hsteady).1 waited
  have haccepted : (attended (.ofInt 1)).accepted Dispatch.greeter replaced = [caller, caller] := by
    decide +kernel
  obtain ⟨e, run, he, _, htaken⟩ := htold 0 caller (congrArg (·[0]?) haccepted) (by decide +kernel)
    (by decide +kernel)
  refine ⟨waited, hcount.trans (congrArg List.length haccepted), hclosed, hpending, run.spoken, ?_⟩
  rw [show t.ends[0]? = some e from he]
  exact congrArg some htaken

/-- **Without time for closing no terminal message is given away**: the handler of a caller has run,
every transport makes progress, the release has run, and serving is over. -/
theorem hurried_end_untold :
    let moves : List Move :=
      [.loop (.connect caller), .loop .turn, .loop .turn, .loop .turn, .chance 0 .settle,
        .loop (.retire "stop"), .loop .turn, .loop .turn]
    let t := (attended (.ofInt 0)).run Dispatch.greeter moves
    (∀ move ∈ moves, move.Steady) ∧ t.waited = true ∧ t.loop.served.length = 1 ∧
      (attended (.ofInt 0)).accepted Dispatch.greeter moves = [caller] ∧
      (Dispatch.greeter.command? t.loop.listener.settings caller.delivery).isSome ∧
      t.ends.map (·.transport.taken) = [[.packet "hello"]] := by
  refine ⟨?_, ?_, ?_, ?_, ?_, ?_⟩ <;> decide +kernel

end Tenure

end ControlChannel
