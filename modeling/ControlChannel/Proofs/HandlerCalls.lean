import ControlChannel.Proofs.LoopRuns
import Mathlib.Data.List.Forall2

/-!
# The calls of a handler

Out of the connections that are served, those with a command have the handler called with it, once
each.  Whether a connection ends the service is up to that call alone, whatever the client and the
writing end do.

* `HandlerRun.AsksEnd` — a run that asks for the end of the service;
* `Dispatch.Orders`, `Dispatch.Calls` — **the calls of a handler as the octets of connections want
  them**;
* `Dispatch.runs`, `Dispatch.Calls.runs_eq` — the runs for connections in order, which are those of
  these calls;
* `Dispatch.serveThrough_terminates`, `Dispatch.serveThrough_recorded` — what one connection comes
  to;
* `Listener.serveAll_terminates`, `Listener.serveAll_recorded` — and connections in order.
-/

namespace ControlChannel

variable {Facts Command : Type}

/-- Whether a run asks for the end of the service: it returned the truth value `true` itself, or
asked on the way, whatever it did after that and however it ended. -/
def HandlerRun.AsksEnd (run : HandlerRun) : Prop :=
  run.ending = .returned (.bool true) ∨ .requestShutdown ∈ run.actions

/-- Whether a handler ended by returning the truth value `true`. -/
def Ending.isTrue : Ending → Bool
  | .returned value => value.isTrue
  | .failed _ => false

theorem Ending.isTrue_iff {ending : Ending} :
    ending.isTrue = true ↔ ending = .returned (.bool true) := by
  cases ending with
  | failed fault => simp [isTrue]
  | returned value => cases value <;> simp [isTrue, Json.isTrue]

theorem Action.any_asksEnd_iff {actions : List Action} :
    actions.any asksEnd = true ↔ .requestShutdown ∈ actions := by
  rw [List.any_eq_true]
  constructor
  · rintro ⟨action, hmem, hasks⟩
    cases action with
    | requestShutdown => exact hmem
    | _ => cases hasks
  · exact fun hmem => ⟨_, hmem, rfl⟩

theorem HandlerRun.asksEnd_iff {run : HandlerRun} :
    run.AsksEnd ↔ (run.ending.isTrue || run.actions.any Action.asksEnd) = true := by
  rw [Bool.or_eq_true, Ending.isTrue_iff, Action.any_asksEnd_iff, AsksEnd]

instance (run : HandlerRun) : Decidable run.AsksEnd :=
  decidable_of_iff _ HandlerRun.asksEnd_iff.symm

/-- A value that only counts as true asks for nothing. -/
example : ¬ HandlerRun.AsksEnd { actions := [.send (.str "bye")], ending := .returned (.int 1) } := by
  decide

/-- Neither a close nor a failure takes back what was asked for. -/
example : HandlerRun.AsksEnd
    { actions := [.requestShutdown, .close], ending := .failed (.other []) } := by
  decide

/-- What the writing end meets asks for nothing. -/
theorem Weather.any_asksEnd_course (weather : Weather) (actions : List Action) :
    (weather.course actions).any Course.Event.asksEnd = actions.any Action.asksEnd := by
  induction actions generalizing weather with
  | nil => rfl
  | cons action actions ih =>
    have hchances : ((weather.headD []).map Course.Event.chance).any Course.Event.asksEnd = false := by
      simp [Course.Event.asksEnd]
    show List.any (_ ++ Course.Event.act action :: _) _ = _
    rw [List.any_append, hchances, List.any_cons, ih, List.any_cons]
    rfl

namespace Dispatch

/-- The runs of the handler for connections in order, each with the facts that those before left. -/
def runs (d : Dispatch Facts Command) (settings : ServeSettings) :
    Facts → List Connection → List (Option HandlerRun)
  | _, [] => []
  | facts, connection :: later =>
    match d.command? settings connection.delivery with
    | none => none :: runs d settings facts later
    | some command =>
      let (run, facts) := d.handle facts command
      some run :: runs d settings facts later

variable (d : Dispatch Facts Command) (settings : ServeSettings) (client : Text) (facts : Facts)

/-- A connection has a command exactly when its octets begin with a frame of an argument vector that
is read as one. -/
theorem command?_eq_some_iff {delivery : Delivery} {command : Command} :
    d.command? settings delivery = some command ↔
      ∃ argv, settings.Hears delivery.bytes (.args argv) ∧ d.read argv = .ok command := by
  constructor
  · intro h
    unfold command? at h
    split at h
    · rename_i argv later hheard
      refine ⟨argv, (heard_eq_message_iff settings).1 ⟨later, hheard⟩, ?_⟩
      cases hread : d.read argv with
      | error text =>
        rw [hread] at h
        cases h
      | ok read =>
        rw [hread] at h
        cases h
        rfl
    · cases h
  · rintro ⟨argv, hhears, hread⟩
    obtain ⟨later, hheard⟩ := (heard_eq_message_iff settings).2 hhears
    unfold command?
    rw [hheard]
    dsimp only
    rw [hread]
    rfl

/-- Whether a connection orders a command: its octets begin with a frame of an argument vector that is
read as this. -/
def Orders (connection : Connection) (command : Command) : Prop :=
  ∃ argv, settings.Hears connection.delivery.bytes (.args argv) ∧ d.read argv = .ok command

/-- What a handler is called with for connections in order, and its runs: once with each command that
is ordered, and with the facts that the calls before left. -/
inductive Calls : Facts → List Connection → List (Option (Command × HandlerRun)) → Prop
  | nil (facts : Facts) : Calls facts [] []
  | skip {facts : Facts} {connection : Connection} {later : List Connection}
    {calls : List (Option (Command × HandlerRun))}
    (silent : ∀ command, ¬ d.Orders settings connection command) (rest : Calls facts later calls) :
    Calls facts (connection :: later) (none :: calls)
  | call {facts : Facts} {connection : Connection} {later : List Connection} {command : Command}
    {calls : List (Option (Command × HandlerRun))}
    (orders : d.Orders settings connection command)
    (rest : Calls (d.handle facts command).2 later calls) :
    Calls facts (connection :: later) (some (command, (d.handle facts command).1) :: calls)

/-- A connection that orders nothing has no command. -/
theorem command?_of_silent {connection : Connection}
    (silent : ∀ command, ¬ d.Orders settings connection command) :
    d.command? settings connection.delivery = none :=
  Option.eq_none_iff_forall_ne_some.2 fun command h =>
    silent command ((command?_eq_some_iff d settings).1 h)

/-- The octets want some calls. -/
theorem exists_calls (connections : List Connection) :
    ∃ calls, d.Calls settings facts connections calls := by
  induction connections generalizing facts with
  | nil => exact ⟨[], .nil facts⟩
  | cons connection later ih =>
    by_cases hsilent : ∀ command, ¬ d.Orders settings connection command
    · obtain ⟨calls, hcalls⟩ := ih facts
      exact ⟨none :: calls, .skip hsilent hcalls⟩
    · obtain ⟨command, horders⟩ := not_forall_not.1 hsilent
      obtain ⟨calls, hcalls⟩ := ih (d.handle facts command).2
      exact ⟨_, .call horders hcalls⟩

section Calls

variable {d settings facts} {connections : List Connection}
  {calls : List (Option (Command × HandlerRun))}

/-- **The runs of a handler are those of the calls that the octets want.** -/
theorem Calls.runs_eq (h : d.Calls settings facts connections calls) :
    d.runs settings facts connections = calls.map (Option.map Prod.snd) := by
  induction h with
  | nil facts => rfl
  | skip silent rest ih =>
    rw [runs, command?_of_silent d settings silent, ih]
    rfl
  | call orders rest ih =>
    rw [runs, (command?_eq_some_iff d settings).2 orders]
    exact congrArg _ ih

/-- The calls are made with the commands of the connections. -/
theorem Calls.map_fst (h : d.Calls settings facts connections calls) :
    calls.map (Option.map Prod.fst) = connections.map fun c => d.command? settings c.delivery := by
  induction h with
  | nil facts => rfl
  | skip silent rest ih =>
    rw [List.map_cons, List.map_cons, ih, command?_of_silent d settings silent]
    rfl
  | call orders rest ih =>
    rw [List.map_cons, List.map_cons, ih, (command?_eq_some_iff d settings).2 orders]
    rfl

theorem Calls.length_eq (h : d.Calls settings facts connections calls) :
    calls.length = connections.length := by
  induction h with
  | nil facts => rfl
  | skip silent rest ih => exact congrArg (· + 1) ih
  | call orders rest ih => exact congrArg (· + 1) ih

end Calls

theorem conductThrough_terminates (weather : Weather) (run : HandlerRun) :
    (conductThrough settings client weather run).terminates = true ↔ run.AsksEnd := by
  have hasked : ((Course.fresh client settings.closeTimeout {}).run
      (weather.course run.actions)).handle.shutdownRequested = run.actions.any Action.asksEnd := by
    rw [Course.run_shutdownRequested, Weather.any_asksEnd_course]
    rfl
  rw [HandlerRun.asksEnd_iff]
  unfold conductThrough
  cases run.ending with
  | returned value =>
    dsimp only
    rw [hasked]
    rfl
  | failed fault =>
    dsimp only
    rw [hasked]
    rfl

/-- A connection with a command is its run. -/
theorem serveThrough_of_command {connection : Connection} {command : Command}
    (h : d.command? settings connection.delivery = some command) :
    d.serveThrough settings client facts connection =
      (conductThrough settings client connection.weather (d.handle facts command).1,
        (d.handle facts command).2) := by
  unfold command? at h
  unfold serveThrough
  split at h
  · rename_i argv later hheard
    rw [hheard]
    dsimp only
    cases hread : d.read argv with
    | error text =>
      rw [hread] at h
      cases h
    | ok read =>
      rw [hread] at h
      cases h
      rfl
  · cases h

theorem rejectedThrough_terminates (weather : Weather) (text : Text) :
    (rejectedThrough client weather text).terminates = false := by
  unfold rejectedThrough
  split
  · rfl
  · split <;> rfl

theorem identifiedThrough_terminates (weather : Weather) :
    (identifiedThrough settings client weather).terminates = false := by
  unfold identifiedThrough
  split
  · rfl
  · split <;> rfl

/-- A connection without a command ends nothing and leaves the facts as they are. -/
theorem serveThrough_of_none {connection : Connection}
    (h : d.command? settings connection.delivery = none) :
    (d.serveThrough settings client facts connection).1.terminates = false ∧
      (d.serveThrough settings client facts connection).2 = facts := by
  unfold command? at h
  unfold serveThrough serve
  cases hheard : heard settings connection.delivery with
  | message m later =>
    rw [hheard] at h
    cases m with
    | args argv =>
      dsimp only at h ⊢
      cases hread : d.read argv with
      | error text => exact ⟨rejectedThrough_terminates client _ text, rfl⟩
      | ok command =>
        rw [hread] at h
        cases h
    | idRequest => exact ⟨identifiedThrough_terminates settings client _, rfl⟩
    | _ => exact ⟨rfl, rfl⟩
  | refused fault =>
    cases fault with
    | closed => exact ⟨rfl, rfl⟩
    | payload fault => cases fault <;> exact ⟨rfl, rfl⟩
  | _ => exact ⟨rfl, rfl⟩

/-! ### Connections in order -/

theorem runs_cons (connection : Connection) (later : List Connection) :
    d.runs settings facts (connection :: later) =
      ((d.command? settings connection.delivery).map fun command => (d.handle facts command).1) ::
        d.runs settings (d.serveThrough settings client facts connection).2 later := by
  rw [runs]
  cases hcommand : d.command? settings connection.delivery with
  | none => rw [(serveThrough_of_none d settings client facts hcommand).2]; rfl
  | some command => rw [serveThrough_of_command d settings client facts hcommand]; rfl

/-- **A connection ends the service exactly for its command, whose run asked for it.** -/
theorem serveThrough_terminates (connection : Connection) :
    (d.serveThrough settings client facts connection).1.terminates = true ↔
      ∃ run, (d.command? settings connection.delivery).map
        (fun command => (d.handle facts command).1) = some run ∧ run.AsksEnd := by
  cases hcommand : d.command? settings connection.delivery with
  | none => simp [(serveThrough_of_none d settings client facts hcommand).1]
  | some command =>
    rw [serveThrough_of_command d settings client facts hcommand]
    simp [conductThrough_terminates]

end Dispatch

namespace Listener

/-- **Connections in order end the service exactly for the runs that asked for it.** -/
theorem serveAll_terminates (d : Dispatch Facts Command) (l : Listener Facts)
    (connections : List Connection) :
    List.Forall₂ (fun served run => served.terminates = true ↔ ∃ r, run = some r ∧ r.AsksEnd)
      (l.serveAll d connections).1 (d.runs l.settings l.facts connections) := by
  induction connections generalizing l with
  | nil => exact .nil
  | cons connection later ih =>
    rw [serveAll_cons, Dispatch.runs_cons d l.settings l.nextClient]
    refine .cons (Dispatch.serveThrough_terminates d l.settings l.nextClient l.facts connection) ?_
    rw [acceptThrough_listener]
    exact ih _

theorem serveAll_settings (d : Dispatch Facts Command) (l : Listener Facts)
    (connections : List Connection) : (l.serveAll d connections).2.settings = l.settings := by
  induction connections generalizing l with
  | nil => rfl
  | cons connection later ih =>
    rw [serveAll_cons, acceptThrough_listener]
    exact ih _

theorem serveAll_path (d : Dispatch Facts Command) (l : Listener Facts)
    (connections : List Connection) : (l.serveAll d connections).2.path = l.path := by
  induction connections generalizing l with
  | nil => rfl
  | cons connection later ih =>
    rw [serveAll_cons, acceptThrough_listener]
    exact ih _

theorem serveAll_connections (d : Dispatch Facts Command) (l : Listener Facts)
    (connections : List Connection) :
    (l.serveAll d connections).2.connections = l.connections + connections.length := by
  induction connections generalizing l with
  | nil => rfl
  | cons connection later ih =>
    rw [serveAll_cons, acceptThrough_listener, List.length_cons]
    refine (ih _).trans ?_
    dsimp only
    omega

end Listener

namespace Loop.Serves

variable {d : Dispatch Facts Command} {l : Listener Facts} {came seen : List Connection}
  {loop : Loop Facts}

/-- The connections that were served are as many as came first. -/
theorem seen_eq_take (h : Serves d l came seen loop) : seen = came.take loop.served.length := by
  rw [h.served, Listener.length_serveAll]
  exact List.prefix_iff_eq_take.1 h.first

theorem length_runs (h : Serves d l came seen loop) :
    (d.runs l.settings l.facts seen).length = loop.served.length := by
  rw [h.served]
  exact (l.serveAll_terminates d seen).length_eq.symm

/-- A connection that was served ended the service exactly if its run asked for it. -/
theorem terminates_iff (h : Serves d l came seen loop) (k : Nat) (hk : k < loop.served.length) :
    (loop.served[k]).terminates = true ↔
      ∃ run, (d.runs l.settings l.facts seen)[k]? = some (some run) ∧ run.AsksEnd := by
  have hruns : k < (d.runs l.settings l.facts seen).length := h.length_runs ▸ hk
  have hserved := h.served
  have hall := l.serveAll_terminates d seen
  rw [← hserved] at hall
  have hk' := List.Forall₂.get hall hk hruns
  rw [List.getElem?_eq_getElem hruns]
  simpa using hk'

theorem terminated_iff (h : Serves d l came seen loop) :
    loop.Terminated ↔ ∃ run, some run ∈ d.runs l.settings l.facts seen ∧ run.AsksEnd := by
  constructor
  · rintro ⟨served, hmem, hterminates⟩
    obtain ⟨k, hk, rfl⟩ := List.getElem_of_mem hmem
    obtain ⟨run, hrun, hasks⟩ := (h.terminates_iff k hk).1 hterminates
    exact ⟨run, List.mem_of_getElem? hrun, hasks⟩
  · rintro ⟨run, hmem, hasks⟩
    obtain ⟨k, hk⟩ := List.mem_iff_getElem?.1 hmem
    have hserved : k < loop.served.length := by
      rw [← h.length_runs]
      exact (List.getElem?_eq_some_iff.1 hk).1
    exact ⟨_, List.getElem_mem hserved, (h.terminates_iff k hserved).2 ⟨run, hk, hasks⟩⟩

/-- A connection ended the service exactly if a call asked for it. -/
theorem terminated_iff_calls (h : Serves d l came seen loop)
    {calls : List (Option (Command × HandlerRun))}
    (hruns : d.runs l.settings l.facts seen = calls.map (Option.map Prod.snd)) :
    loop.Terminated ↔ ∃ call, some call ∈ calls ∧ call.2.AsksEnd := by
  rw [h.terminated_iff, hruns]
  constructor
  · rintro ⟨run, hmem, hasks⟩
    obtain ⟨call, hcall, hrun⟩ := List.mem_map.1 hmem
    obtain ⟨called, rfl, rfl⟩ := Option.map_eq_some_iff.1 hrun
    exact ⟨called, hcall, hasks⟩
  · rintro ⟨call, hmem, hasks⟩
    exact ⟨call.2, List.mem_map.2 ⟨_, hmem, rfl⟩, hasks⟩

end Loop.Serves

end ControlChannel
