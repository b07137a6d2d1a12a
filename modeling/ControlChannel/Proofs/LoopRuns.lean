import ControlChannel.Listener.Loop
import ControlChannel.Proofs.EndingSends
import ControlChannel.Proofs.FairWeather

/-!
# Runs of the accept loop

The loop takes connections in the order in which they come, and one at a time.  What it comes to is
what serving a first part of them in order comes to, whatever happens outside meanwhile.

* `Loop.Turned`, `Loop.turned` — all that a turn can do;
* `Listener.serveAll`, `Listener.GetsThrough` — connections served one after the other, without a look
  at the token, and whether none of them keeps the listener for ever;
* `Loop.Serves`, `Loop.Minds` — **which connections were served, and what the token tells**, with one
  lemma for a step and one for a run of each;
* `Loop.engaged` — the connections that were begun, which stay the same once the token is retired;
* `Loop.exists_atRest`, `Loop.run_acceptAll` — **a loop that gets through comes to rest**, where it has
  done what `Listener.acceptAll` does if the writing ends meet nothing.
-/

namespace ControlChannel

variable {Facts Command : Type}

namespace Loop

/-! ### A turn -/

/-- The connection that a loop has in hand. -/
def Stage.inHand : Stage → List Connection
  | .accepted connection => [connection]
  | .serving connection => [connection]
  | _ => []

/-- Whether a loop serves a connection. -/
def Stage.isServing : Stage → Bool
  | .serving _ => true
  | _ => false

/-- What a turn of a loop comes to. -/
inductive Turned (d : Dispatch Facts Command) (loop : Loop Facts) : Loop Facts → Prop
  | rests (rest : loop.AtRest) : Turned d loop loop
  | ends (idle : loop.stage.isServing = false) (retired : loop.listener.token.retired = true) :
    Turned d loop loop.finish
  | accepts {connection : Connection} {later : List Connection} (stage : loop.stage = .waiting)
    (unretired : loop.listener.token.retired = false) (backlog : loop.backlog = connection :: later) :
    Turned d loop { loop with stage := .accepted connection, backlog := later }
  | begins {connection : Connection} (stage : loop.stage = .accepted connection)
    (unretired : loop.listener.token.retired = false) :
    Turned d loop { loop with stage := .serving connection }
  | hangs {connection : Connection} (stage : loop.stage = .serving connection)
    (hung : loop.listener.hangsOn d connection = true) : Turned d loop loop
  | serves {connection : Connection} (stage : loop.stage = .serving connection)
    (free : loop.listener.hangsOn d connection = false) :
    Turned d loop
      { loop with
        listener := (loop.listener.acceptThrough d connection).2
        stage := .waiting
        served := loop.served ++ [(loop.listener.acceptThrough d connection).1] }

/-- These are all the things that a turn can do. -/
theorem turned (d : Dispatch Facts Command) (loop : Loop Facts) : Turned d loop (loop.turn d) := by
  unfold turn
  cases hstage : loop.stage with
  | waiting =>
    dsimp only
    cases hretired : loop.listener.token.retired with
    | true =>
      rw [if_pos rfl]
      exact .ends (by rw [hstage]; rfl) hretired
    | false =>
      rw [if_neg Bool.false_ne_true]
      cases hbacklog : loop.backlog with
      | nil => exact .rests (.inr ⟨hstage, hbacklog, hretired⟩)
      | cons connection later => exact .accepts hstage hretired hbacklog
  | accepted connection =>
    dsimp only
    cases hretired : loop.listener.token.retired with
    | true =>
      rw [if_pos rfl]
      exact .ends (by rw [hstage]; rfl) hretired
    | false =>
      rw [if_neg Bool.false_ne_true]
      exact .begins hstage hretired
  | serving connection =>
    dsimp only
    cases hhangs : loop.listener.hangsOn d connection with
    | true =>
      rw [if_pos rfl]
      exact .hangs hstage hhangs
    | false =>
      rw [if_neg Bool.false_ne_true]
      exact .serves hstage hhangs
  | ended => exact .rests (.inl hstage)

end Loop

/-! ### Connections in order -/

namespace Listener

/-- A listener without its socket and its token: what serving a connection depends on. -/
def core (l : Listener Facts) : Listener Facts := { l with inode := none, token := {} }

/-- Serves connections one after the other, without a look at the token. -/
def serveAll (d : Dispatch Facts Command) (l : Listener Facts) :
    List Connection → List Served × Listener Facts
  | [] => ([], l)
  | connection :: later =>
    let (served, l) := l.acceptThrough d connection
    let (others, l) := serveAll d l later
    (served :: others, l)

/-- What a connection leaves of its listener: the token is retired if its command asked for that. -/
theorem acceptThrough_listener (d : Dispatch Facts Command) (l : Listener Facts)
    (connection : Connection) :
    (l.acceptThrough d connection).2 =
      { l with
        facts := (d.serveThrough l.settings l.nextClient l.facts connection).2
        connections := l.connections + 1
        token :=
          if (l.acceptThrough d connection).1.terminates then l.token.retire commandReason
          else l.token } := by
  unfold acceptThrough
  dsimp only
  split <;> rfl

/-- Neither the socket nor the token matters to a connection that is served. -/
theorem acceptThrough_core (d : Dispatch Facts Command) {l k : Listener Facts} (h : l.core = k.core)
    (connection : Connection) :
    (l.acceptThrough d connection).1 = (k.acceptThrough d connection).1 ∧
      (l.acceptThrough d connection).2.core = (k.acceptThrough d connection).2.core := by
  cases l
  cases k
  cases h
  unfold acceptThrough nextClient
  dsimp only
  refine ⟨rfl, ?_⟩
  split <;> rfl

theorem serveAll_cons (d : Dispatch Facts Command) (l : Listener Facts) (connection : Connection)
    (later : List Connection) :
    l.serveAll d (connection :: later) =
      ((l.acceptThrough d connection).1 :: ((l.acceptThrough d connection).2.serveAll d later).1,
        ((l.acceptThrough d connection).2.serveAll d later).2) := rfl

theorem serveAll_snoc (d : Dispatch Facts Command) (l : Listener Facts)
    (connections : List Connection) (connection : Connection) :
    l.serveAll d (connections ++ [connection]) =
      ((l.serveAll d connections).1 ++
          [((l.serveAll d connections).2.acceptThrough d connection).1],
        ((l.serveAll d connections).2.acceptThrough d connection).2) := by
  induction connections generalizing l with
  | nil => rfl
  | cons first connections ih =>
    rw [List.cons_append, serveAll_cons, serveAll_cons, ih]
    rfl

theorem length_serveAll (d : Dispatch Facts Command) (l : Listener Facts)
    (connections : List Connection) :
    (l.serveAll d connections).1.length = connections.length := by
  induction connections generalizing l with
  | nil => rfl
  | cons first connections ih => exact congrArg (· + 1) (ih _)

/-- Whether a listener gets through with connections that it serves one after the other: none of them
keeps it for ever. -/
def GetsThrough (d : Dispatch Facts Command) (l : Listener Facts) : List Connection → Prop
  | [] => True
  | connection :: later =>
    l.hangsOn d connection = false ∧ GetsThrough d (l.acceptThrough d connection).2 later

/-- Neither the socket nor the token matters to a connection that keeps its listener. -/
theorem hangsOn_core (d : Dispatch Facts Command) {l k : Listener Facts} (h : l.core = k.core)
    (connection : Connection) : l.hangsOn d connection = k.hangsOn d connection := by
  cases l
  cases k
  cases h
  rfl

theorem GetsThrough.core {d : Dispatch Facts Command} {l k : Listener Facts} (h : l.core = k.core)
    {connections : List Connection} (through : l.GetsThrough d connections) :
    k.GetsThrough d connections := by
  induction connections generalizing l k with
  | nil => trivial
  | cons connection later ih =>
    exact ⟨(hangsOn_core d h connection).symm.trans through.1,
      ih (acceptThrough_core d h connection).2 through.2⟩

/-- A listener that gets through with connections does so with the later ones of them. -/
theorem GetsThrough.later {d : Dispatch Facts Command} {l : Listener Facts}
    {connections later : List Connection} (through : l.GetsThrough d (connections ++ later)) :
    (l.serveAll d connections).2.GetsThrough d later := by
  induction connections generalizing l with
  | nil => exact through
  | cons connection connections ih =>
    rw [serveAll_cons]
    exact ih through.2

/-- **A listener gets through with connections on which nothing hangs.** -/
theorem getsThrough_of_flows (d : Dispatch Facts Command) (l : Listener Facts)
    {connections : List Connection} (flows : ∀ c ∈ connections, Weather.Flows c.weather) :
    l.GetsThrough d connections := by
  induction connections generalizing l with
  | nil => trivial
  | cons connection later ih =>
    obtain ⟨hfirst, hlater⟩ := List.forall_mem_cons.1 flows
    exact ⟨hangsOn_of_flows d l hfirst, ih _ hlater⟩

end Listener

namespace Loop

/-! ### Which connections are served -/

/-- A loop that began with a listener has served the connections `seen` in order, out of those that
came. -/
structure Serves (d : Dispatch Facts Command) (l : Listener Facts) (came seen : List Connection)
    (loop : Loop Facts) : Prop where
  /-- Those that were served came first. -/
  first : seen <+: came
  /-- As long as the loop goes on, the others are in its hand or wait, in order. -/
  order : loop.stage ≠ .ended → seen ++ loop.stage.inHand ++ loop.backlog = came
  served : loop.served = (l.serveAll d seen).1
  core : loop.listener.core = (l.serveAll d seen).2.core
  socket : loop.stage ≠ .ended → loop.listener.inode = l.inode

variable {d : Dispatch Facts Command} {l : Listener Facts} {came seen : List Connection}
  {loop : Loop Facts}

theorem serves_begin (d : Dispatch Facts Command) (l : Listener Facts) :
    Serves d l [] [] { listener := l } :=
  ⟨List.prefix_refl _, fun _ => rfl, rfl, rfl, fun _ => rfl⟩

/-- **A turn serves the connection in hand or none.** -/
theorem Turned.serving {next : Loop Facts} (turned : Turned d loop next)
    (h : Serves d l came seen loop) : ∃ seen, Serves d l came seen next := by
  cases turned with
  | rests rest => exact ⟨seen, h⟩
  | hangs stage hung => exact ⟨seen, h⟩
  | ends idle retired =>
    exact ⟨seen, h.first, fun going => absurd rfl going, h.served, h.core,
      fun going => absurd rfl going⟩
  | @accepts connection later stage unretired backlog =>
    have hgoing : loop.stage ≠ .ended := by simp [stage]
    refine ⟨seen, h.first, fun _ => ?_, h.served, h.core, fun _ => h.socket hgoing⟩
    have horder := h.order hgoing
    rw [stage, backlog, show Stage.waiting.inHand = [] from rfl, List.append_nil] at horder
    rw [← horder]
    exact List.append_assoc seen [connection] later
  | @begins connection stage unretired =>
    have hgoing : loop.stage ≠ .ended := by simp [stage]
    refine ⟨seen, h.first, fun _ => ?_, h.served, h.core, fun _ => h.socket hgoing⟩
    have horder := h.order hgoing
    rw [stage] at horder
    exact horder
  | @serves connection stage free =>
    obtain ⟨hserved, hcore⟩ := Listener.acceptThrough_core d h.core connection
    have hgoing : loop.stage ≠ .ended := by simp [stage]
    have horder := h.order hgoing
    rw [stage, show (Stage.serving connection).inHand = [connection] from rfl] at horder
    refine ⟨seen ++ [connection], ⟨loop.backlog, horder⟩, fun _ => ?_, ?_, ?_, fun _ => ?_⟩
    · rw [← horder]
      exact congrArg (· ++ loop.backlog) (List.append_nil _)
    · rw [Listener.serveAll_snoc, h.served, hserved]
    · rw [Listener.serveAll_snoc]
      exact hcore
    · show (loop.listener.acceptThrough d connection).2.inode = l.inode
      rw [Listener.acceptThrough_listener]
      exact h.socket hgoing

/-- **Whoever connects comes last.** -/
theorem step_serves (h : Serves d l came seen loop) (move : Move) :
    ∃ seen, Serves d l (came ++ arrivals [move]) seen (loop.step d move) := by
  cases move with
  | turn =>
    rw [show arrivals [.turn] = [] from rfl, List.append_nil]
    exact (loop.turned d).serving h
  | retire reason =>
    rw [show arrivals [.retire reason] = [] from rfl, List.append_nil]
    exact ⟨seen, h.first, h.order, h.served, h.core, h.socket⟩
  | connect connection =>
    have hfirst : seen <+: came ++ [connection] := h.first.trans (List.prefix_append _ _)
    refine ⟨seen, ?_⟩
    unfold step
    dsimp only
    split
    · rename_i hended
      exact ⟨hfirst, fun going => absurd hended going, h.served, h.core,
        fun going => absurd hended going⟩
    · rename_i hgoing
      refine ⟨hfirst, fun _ => ?_, h.served, h.core, fun _ => h.socket hgoing⟩
      show seen ++ loop.stage.inHand ++ (loop.backlog ++ [connection]) = came ++ [connection]
      rw [← List.append_assoc, h.order hgoing]

theorem arrivals_cons (move : Move) (moves : List Move) :
    arrivals (move :: moves) = arrivals [move] ++ arrivals moves := by
  cases move <;> rfl

theorem run_serves (h : Serves d l came seen loop) (moves : List Move) :
    ∃ seen, Serves d l (came ++ arrivals moves) seen (loop.run d moves) := by
  induction moves generalizing loop came seen with
  | nil =>
    rw [show arrivals [] = [] from rfl, List.append_nil]
    exact ⟨seen, h⟩
  | cons move moves ih =>
    obtain ⟨seen, hstep⟩ := step_serves h move
    rw [arrivals_cons, ← List.append_assoc]
    exact ih hstep

/-- A loop that waits with no one to accept has served everyone who came. -/
theorem Serves.seen_eq_came (h : Serves d l came seen loop) (hwaiting : loop.stage = .waiting)
    (hbacklog : loop.backlog = []) : seen = came := by
  have horder := h.order (by simp [hwaiting])
  rw [hwaiting, hbacklog] at horder
  simpa [Stage.inHand] using horder

end Loop

/-! ### What the token tells -/

namespace ShutdownToken

theorem retired_retire (t : ShutdownToken) (reason : Text) : (t.retire reason).retired = true := by
  unfold retire
  split
  · rename_i first hreason
    rw [retired, hreason]
    rfl
  · rfl

/-- A token keeps its first reason. -/
theorem reason_retire {t : ShutdownToken} {reason told : Text}
    (h : (t.retire reason).reason = some told) : t.reason = some told ∨ told = reason := by
  unfold retire at h
  split at h
  · exact .inl h
  · exact .inr (Option.some.inj h).symm

end ShutdownToken

namespace Loop

/-- The reasons for which the token is retired from outside, in order. -/
def retirements (moves : List Move) : List Text :=
  moves.filterMap fun
    | .retire reason => some reason
    | _ => none

/-- Whether some connection that was served ended the service. -/
def Terminated (loop : Loop Facts) : Prop := ∃ served ∈ loop.served, served.terminates = true

/-- A loop that began with a listener minds its token, which was retired from outside for the
reasons `outside`. -/
structure Minds (l : Listener Facts) (outside : List Text) (loop : Loop Facts) : Prop where
  retired : loop.listener.token.retired = true ↔
    l.token.retired = true ∨ outside ≠ [] ∨ loop.Terminated
  reason : ∀ reason, loop.listener.token.reason = some reason →
    l.token.reason = some reason ∨ reason ∈ outside ∨
      reason = Listener.commandReason ∧ loop.Terminated
  /-- Nothing was served after a connection that ended the service. -/
  last : ∀ k (h : k < loop.served.length), (loop.served[k]).terminates = true →
    k + 1 = loop.served.length
  /-- A loop with a connection in hand has not served one that ended the service. -/
  idle : loop.Terminated → loop.stage.inHand = []
  finished : loop.stage = .ended → loop.listener.token.retired = true

variable {d : Dispatch Facts Command} {l : Listener Facts} {outside : List Text} {loop : Loop Facts}

theorem minds_begin (l : Listener Facts) : Minds l [] { listener := l } where
  retired := by simp [Terminated]
  reason := fun _ h => .inl h
  last := fun _ h => absurd h (Nat.not_lt_zero _)
  idle := fun _ => rfl
  finished := fun h => Stage.noConfusion h

theorem terminated_snoc (going : ¬ loop.Terminated) (served : Served) :
    (∃ other ∈ loop.served ++ [served], other.terminates = true) ↔ served.terminates = true := by
  constructor
  · rintro ⟨other, hmem, hterminates⟩
    obtain hmem | hmem := List.mem_append.1 hmem
    · exact absurd ⟨other, hmem, hterminates⟩ going
    · rwa [List.mem_singleton.1 hmem] at hterminates
  · exact fun hterminates => ⟨served, by simp, hterminates⟩

/-- **Serving a connection retires the token exactly for its command.** -/
theorem minds_served (h : Minds l outside loop) (going : ¬ loop.Terminated) {served : Served}
    {after : Listener Facts}
    (htoken : after.token =
      if served.terminates then loop.listener.token.retire Listener.commandReason
      else loop.listener.token) :
    Minds l outside
      { loop with listener := after, stage := .waiting, served := loop.served ++ [served] } := by
  have hkept : ∀ reason, loop.listener.token.reason = some reason →
      l.token.reason = some reason ∨ reason ∈ outside ∨
        reason = Listener.commandReason ∧ served.terminates = true := by
    intro reason hreason
    obtain hbefore | houtside | ⟨_, hterminated⟩ := h.reason reason hreason
    · exact .inl hbefore
    · exact .inr (.inl houtside)
    · exact absurd hterminated going
  refine ⟨?retired, ?reason, ?last, fun _ => rfl, Stage.noConfusion⟩
  case retired =>
    show after.token.retired = true ↔ _ ∨ _ ∨ ∃ other ∈ loop.served ++ [served], _
    rw [terminated_snoc going, htoken]
    cases served.terminates with
    | true => simp [ShutdownToken.retired_retire]
    | false => simp [h.retired, going]
  case reason =>
    show ∀ reason, after.token.reason = some reason → _ ∨ _ ∨
      _ ∧ ∃ other ∈ loop.served ++ [served], _
    intro reason hreason
    rw [terminated_snoc going]
    rw [htoken] at hreason
    split at hreason
    · rename_i hterminates
      obtain hbefore | hgiven := ShutdownToken.reason_retire hreason
      · exact hkept reason hbefore
      · exact .inr (.inr ⟨hgiven, hterminates⟩)
    · exact hkept reason hreason
  case last =>
    show ∀ k (h : k < (loop.served ++ [served]).length),
      (loop.served ++ [served])[k].terminates = true → k + 1 = (loop.served ++ [served]).length
    intro k hk hterminates
    rw [List.length_append, List.length_singleton] at hk ⊢
    by_cases hearlier : k < loop.served.length
    · rw [List.getElem_append_left hearlier] at hterminates
      exact absurd ⟨_, List.getElem_mem hearlier, hterminates⟩ going
    · omega

/-- **A turn retires the token exactly for the command that it served.** -/
theorem Turned.minds {next : Loop Facts} (turned : Turned d loop next) (h : Minds l outside loop) :
    Minds l outside next := by
  have hgoing : loop.listener.token.retired = false → ¬ loop.Terminated := by
    intro unretired terminated
    rw [h.retired.2 (.inr (.inr terminated))] at unretired
    cases unretired
  cases turned with
  | rests rest => exact h
  | hangs stage hung => exact h
  | ends idle retired => exact ⟨h.retired, h.reason, h.last, fun _ => rfl, fun _ => retired⟩
  | accepts stage unretired backlog =>
    exact ⟨h.retired, h.reason, h.last, fun terminated => absurd terminated (hgoing unretired),
      Stage.noConfusion⟩
  | begins stage unretired =>
    exact ⟨h.retired, h.reason, h.last, fun terminated => absurd terminated (hgoing unretired),
      Stage.noConfusion⟩
  | @serves connection stage free =>
    have hunended : ¬ loop.Terminated := by
      intro terminated
      have hinHand := h.idle terminated
      rw [stage] at hinHand
      cases hinHand
    exact minds_served h hunended
      (congrArg Listener.token (loop.listener.acceptThrough_listener d connection))

/-- **From outside the token is retired by a retirement and by nothing else.** -/
theorem step_minds (h : Minds l outside loop) (move : Move) :
    Minds l (outside ++ retirements [move]) (loop.step d move) := by
  cases move with
  | turn =>
    rw [show retirements [.turn] = [] from rfl, List.append_nil]
    exact (loop.turned d).minds h
  | connect connection =>
    rw [show retirements [.connect connection] = [] from rfl, List.append_nil]
    unfold step
    dsimp only
    split
    · exact h
    · exact ⟨h.retired, h.reason, h.last, h.idle, h.finished⟩
  | retire reason =>
    show Minds l (outside ++ [reason]) { loop with listener := loop.listener.retire reason }
    refine ⟨?_, fun told htold => ?_, h.last, h.idle,
      fun _ => ShutdownToken.retired_retire _ reason⟩
    · constructor
      · exact fun _ => .inr (.inl (by simp))
      · exact fun _ => ShutdownToken.retired_retire _ reason
    · obtain hkept | hgiven := ShutdownToken.reason_retire htold
      · exact (h.reason told hkept).imp_right (Or.imp_left (List.mem_append_left _))
      · exact .inr (.inl (by simp [hgiven]))

theorem retirements_cons (move : Move) (moves : List Move) :
    retirements (move :: moves) = retirements [move] ++ retirements moves := by
  cases move <;> rfl

theorem run_minds (h : Minds l outside loop) (moves : List Move) :
    Minds l (outside ++ retirements moves) (loop.run d moves) := by
  induction moves generalizing loop outside with
  | nil =>
    rw [show retirements [] = [] from rfl, List.append_nil]
    exact h
  | cons move moves ih =>
    rw [retirements_cons, ← List.append_assoc]
    exact ih (step_minds h move)

/-! ### Once the token is retired -/

/-- How many connections were begun: those that were served, and the one that is being served. -/
def engaged (loop : Loop Facts) : Nat := loop.served.length + loop.stage.isServing.toNat

theorem Turned.engaged_of_retired {next : Loop Facts} (turned : Turned d loop next)
    (retired : loop.listener.token.retired = true) :
    next.listener.token.retired = true ∧ next.engaged = loop.engaged := by
  cases turned with
  | rests rest => exact ⟨retired, rfl⟩
  | hangs stage hung => exact ⟨retired, rfl⟩
  | ends idle _ =>
    refine ⟨retired, ?_⟩
    rw [engaged, engaged, idle]
    rfl
  | accepts stage unretired backlog =>
    rw [retired] at unretired
    cases unretired
  | begins stage unretired =>
    rw [retired] at unretired
    cases unretired
  | @serves connection stage free =>
    refine ⟨?_, ?_⟩
    · show (loop.listener.acceptThrough d connection).2.token.retired = true
      rw [Listener.acceptThrough_listener]
      dsimp only
      split
      · exact ShutdownToken.retired_retire _ _
      · exact retired
    · rw [engaged, engaged, stage]
      exact List.length_append

/-- **Once the token is retired, no other connection is begun.** -/
theorem step_retired (retired : loop.listener.token.retired = true) (move : Move) :
    (loop.step d move).listener.token.retired = true ∧
      (loop.step d move).engaged = loop.engaged := by
  cases move with
  | turn => exact (loop.turned d).engaged_of_retired retired
  | retire reason => exact ⟨ShutdownToken.retired_retire _ reason, rfl⟩
  | connect connection =>
    unfold step
    dsimp only
    split <;> exact ⟨retired, rfl⟩

/-- How far a stage is from the end of its connection. -/
def Stage.distance : Stage → Nat
  | .ended => 0
  | .waiting => 1
  | .serving _ => 2
  | .accepted _ => 3

/-- How much is left to do. -/
def work (loop : Loop Facts) : Nat := 3 * loop.backlog.length + loop.stage.distance

/-- A loop that hangs on a connection stays where it is. -/
theorem run_of_hung {connection : Connection} (stage : loop.stage = .serving connection)
    (hung : loop.listener.hangsOn d connection = true) (turns : Nat) :
    loop.run d (List.replicate turns .turn) = loop := by
  have hturn : loop.turn d = loop := by simp [turn, stage, hung]
  induction turns with
  | zero => rfl
  | succ turns ih =>
    rw [List.replicate_succ, run_cons]
    exact (congrArg (run d · _) hturn).trans ih

/-- The connections that a loop has in hand, and those that wait. -/
def coming (loop : Loop Facts) : List Connection := loop.stage.inHand ++ loop.backlog

/-- **A turn of a loop that gets through leaves less to do**, unless nothing is. -/
theorem Turned.work_lt {next : Loop Facts} (turned : Turned d loop next)
    (through : loop.listener.GetsThrough d loop.coming) :
    loop.AtRest ∨ next.work < loop.work ∧ next.listener.GetsThrough d next.coming := by
  unfold coming at through
  cases turned with
  | rests rest => exact .inl rest
  | hangs stage hung =>
    rw [stage] at through
    exact absurd (hung.symm.trans through.1) Bool.noConfusion
  | ends idle retired =>
    cases hstage : loop.stage with
    | ended => exact .inl (.inl hstage)
    | waiting => exact .inr ⟨by simp [work, finish, hstage, Stage.distance], trivial⟩
    | accepted connection => exact .inr ⟨by simp [work, finish, hstage, Stage.distance], trivial⟩
    | serving connection =>
      rw [hstage] at idle
      cases idle
  | accepts stage unretired backlog =>
    rw [stage, backlog] at through
    refine .inr ⟨?_, through⟩
    simp only [work, stage, backlog, List.length_cons, Stage.distance]
    omega
  | begins stage unretired =>
    rw [stage] at through
    exact .inr ⟨by simp [work, stage, Stage.distance], through⟩
  | serves stage free =>
    rw [stage] at through
    exact .inr ⟨by simp [work, stage, Stage.distance], through.2⟩

/-- **A loop that gets through comes to rest**, if nothing happens outside. -/
theorem exists_atRest (through : loop.listener.GetsThrough d loop.coming) :
    ∃ turns, (loop.run d (List.replicate turns .turn)).AtRest := by
  induction hwork : loop.work using Nat.strong_induction_on generalizing loop with
  | _ work ih =>
    obtain hrest | ⟨hless, hthrough⟩ := (loop.turned d).work_lt through
    · exact ⟨0, hrest⟩
    · obtain ⟨turns, hrest⟩ := ih _ (hwork ▸ hless) hthrough rfl
      exact ⟨turns + 1, hrest⟩

/-- A listener that gets through with all who came does so with those who are left. -/
theorem Serves.getsThrough (h : Serves d l came seen loop) (through : l.GetsThrough d came)
    (going : loop.stage ≠ .ended) : loop.listener.GetsThrough d loop.coming := by
  have horder := h.order going
  rw [List.append_assoc] at horder
  rw [← horder] at through
  exact through.later.core h.core.symm

/-- So its loop comes to rest. -/
theorem Serves.exists_atRest (h : Serves d l came seen loop) (through : l.GetsThrough d came) :
    ∃ turns, (loop.run d (List.replicate turns .turn)).AtRest := by
  by_cases hended : loop.stage = .ended
  · exact ⟨0, .inl hended⟩
  · exact Loop.exists_atRest (h.getsThrough through hended)

/-! ### The loop and its connections -/

/-- The loop of a listener with deliveries that wait, over writing ends that meet nothing. -/
def withBacklog (l : Listener Facts) (deliveries : List Delivery) (before : List Served) :
    Loop Facts :=
  { listener := l, backlog := deliveries.map ({ delivery := · }), served := before }

theorem acceptAll_of_retired (d : Dispatch Facts Command) {l : Listener Facts}
    (retired : l.token.retired = true) (deliveries : List Delivery) :
    l.acceptAll d deliveries = (deliveries.map fun _ => none, l) := by
  induction deliveries with
  | nil => rfl
  | cons delivery later ih =>
    rw [Listener.acceptAll, if_pos retired, ih]
    rfl

/-- A loop whose token is retired turns everyone away who waits. -/
theorem turn_of_retired (d : Dispatch Facts Command) {l : Listener Facts}
    (retired : l.token.retired = true) (deliveries : List Delivery) (before : List Served) :
    let rest := (withBacklog l deliveries before).turn d
    rest.AtRest ∧
      rest.served = before ++ (l.acceptAll d deliveries).1.filterMap id ∧
      rest.listener = { (l.acceptAll d deliveries).2 with inode := rest.listener.inode } := by
  have hturn : (withBacklog l deliveries before).turn d
      = (withBacklog l deliveries before).finish := by
    unfold turn withBacklog
    dsimp only
    rw [if_pos retired]
  rw [hturn, acceptAll_of_retired d retired]
  refine ⟨.inl rfl, ?_, rfl⟩
  show before = _
  simp

/-- Three turns accept a connection, begin it and serve it. -/
theorem turns_of_unretired (d : Dispatch Facts Command) {l : Listener Facts}
    (unretired : l.token.retired = false) (delivery : Delivery) (later : List Delivery)
    (before : List Served) :
    (withBacklog l (delivery :: later) before).run d (List.replicate 3 .turn) =
      withBacklog (l.accept d delivery).2 later (before ++ [(l.accept d delivery).1]) := by
  have hfree : l.hangsOn d { delivery } = false :=
    l.hangsOn_of_flows d fun _ hmem => by cases hmem
  rw [← Listener.acceptThrough_fair]
  simp [List.replicate, withBacklog, step, turn, unretired, hfree]

/-- **Where the writing ends meet nothing, the loop does with those who wait what accepting them in
order does**, and only the socket is not the same in the end. -/
theorem run_acceptAll (d : Dispatch Facts Command) (l : Listener Facts) (deliveries : List Delivery)
    (before : List Served) :
    ∃ turns,
      let rest := (withBacklog l deliveries before).run d (List.replicate turns .turn)
      rest.AtRest ∧
        rest.served = before ++ (l.acceptAll d deliveries).1.filterMap id ∧
        rest.listener = { (l.acceptAll d deliveries).2 with inode := rest.listener.inode } := by
  induction deliveries generalizing l before with
  | nil =>
    cases hretired : l.token.retired with
    | true => exact ⟨1, turn_of_retired d hretired [] before⟩
    | false => exact ⟨0, .inr ⟨rfl, rfl, hretired⟩, (List.append_nil _).symm, rfl⟩
  | cons delivery later ih =>
    cases hretired : l.token.retired with
    | true => exact ⟨1, turn_of_retired d hretired (delivery :: later) before⟩
    | false =>
      obtain ⟨turns, hrest⟩ := ih (l.accept d delivery).2 (before ++ [(l.accept d delivery).1])
      refine ⟨3 + turns, ?_⟩
      rw [← List.replicate_append_replicate, run_append, turns_of_unretired d hretired,
        Listener.acceptAll, if_neg (by rw [hretired]; exact Bool.false_ne_true)]
      rw [List.append_assoc] at hrest
      exact hrest

end Loop

end ControlChannel
