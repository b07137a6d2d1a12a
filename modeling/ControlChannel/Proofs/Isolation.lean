import ControlChannel.Proofs.ForwardedCommand
import ControlChannel.Proofs.HandlerCalls

/-!
# Connections apart from each other

Where a handler keeps nothing of its calls, a connection comes to the same whoever came before: the
name under which its client is logged is all that the earlier ones leave, and no message tells it.

* `Course.Alike`, `Course.run_alike` — **two courses that differ in the name of their client** take
  the same messages, whatever happens to them;
* `Dispatch.Stateless`, `Dispatch.serveThrough_transport`, `Dispatch.hangs_alike` — so a connection is
  answered the same under every name and with all facts, and keeps its listener or not;
* `Listener.serveAll_frames` — and connections in order are answered as each of them alone;
* `Loop.Peaceful`, `Loop.run_peaceful` — a loop that nobody ends goes on;
* `Loop.connections_isolated` — all of this for the accept loop and for every history of it.
-/

namespace ControlChannel

variable {Facts Command : Type}

/-! ### The name of a client -/

namespace OutputHandle

/-- The same handle for a client with another name. -/
def named (h : OutputHandle) (name : Text) : OutputHandle := { h with client := name }

variable (h : OutputHandle) (name : Text)

@[simp] theorem named_closed : (h.named name).closed = h.closed := rfl

@[simp] theorem named_broken : (h.named name).broken = h.broken := rfl

@[simp] theorem named_transport : (h.named name).transport = h.transport := rfl

@[simp] theorem named_closeTimeout : (h.named name).closeTimeout = h.closeTimeout := rfl

@[simp] theorem named_phase : (h.named name).phase = h.phase := rfl

theorem send_named (value : Json) :
    ((h.named name).send value).1 = (h.send value).1 ∧
      ((h.named name).send value).2.1 = (h.send value).2.1.named name := by
  unfold send
  rw [named_closed, named_broken, named_transport]
  cases h.closed with
  | true => exact ⟨rfl, rfl⟩
  | false =>
    cases h.broken with
    | true => exact ⟨rfl, rfl⟩
    | false =>
      rw [if_neg Bool.false_ne_true, if_neg Bool.false_ne_true, if_neg Bool.false_ne_true,
        if_neg Bool.false_ne_true]
      cases packetFor value with
      | error fault => exact ⟨rfl, rfl⟩
      | ok packet =>
        dsimp only
        cases h.transport.offer packet with
        | mk progress transport => cases progress <;> exact ⟨rfl, rfl⟩

theorem close_named : (h.named name).close = h.close.named name := by
  unfold close
  rw [named_phase]
  cases h.phase <;> rfl

theorem act_named (action : Action) :
    ((h.named name).act action).1 = (h.act action).1 ∧
      ((h.named name).act action).2.1 = (h.act action).2.1.named name := by
  cases action with
  | send value => exact h.send_named name value
  | close => exact ⟨rfl, h.close_named name⟩
  | requestShutdown => exact ⟨rfl, rfl⟩

theorem release_named : (h.named name).release = h.release.named name := by
  unfold release
  dsimp only
  rw [named_transport, named_closeTimeout]
  split
  · rfl
  · cases h.transport.close.waitClosed <;> rfl

theorem notify_named : (h.named name).notify.1 = h.notify.1.named name := by
  unfold notify
  rw [named_transport, named_closeTimeout]
  split
  · exact h.release_named name
  · cases h.transport.offer .closeSocket with
    | mk progress transport =>
      cases progress with
      | stuck => rfl
      | _ => exact release_named { h with transport } name

theorem runRelease_named : (h.named name).runRelease.1 = h.runRelease.1.named name := by
  unfold runRelease
  rw [named_phase]
  cases h.phase with
  | scheduled broken =>
    cases broken with
    | true => exact h.release_named name
    | false => exact h.notify_named name
  | _ => rfl

theorem expire_named : (h.named name).expire.1 = h.expire.1.named name := by
  unfold expire
  rw [named_phase]
  cases h.phase with
  | notifying left => exact h.release_named name
  | _ => rfl

end OutputHandle

namespace Course

/-- Two courses that differ in the name of their client, and in what was told of it. -/
structure Alike (name : Text) (c k : Course) : Prop where
  handle : k.handle = c.handle.named name
  hanging : k.hanging = c.hanging

variable {name : Text} {c k : Course}

theorem act_alike (h : Alike name c k) (action : Action) :
    Alike name (c.act action) (k.act action) := by
  obtain ⟨hresult, hhandle⟩ := c.handle.act_named name action
  rw [← h.handle] at hresult hhandle
  refine ⟨hhandle, ?_⟩
  unfold act
  dsimp only
  rw [hresult, h.hanging]

theorem befall_alike (h : Alike name c k) (chance : Chance) :
    Alike name (c.befall chance) (k.befall chance) := by
  obtain ⟨handle, hanging, results, notices⟩ := k
  obtain ⟨rfl, rfl⟩ := h
  cases chance with
  | mode mode => exact ⟨rfl, rfl⟩
  | wake fault =>
    show Alike name (c.wake fault) (wake _ fault)
    unfold wake
    cases hhanging : c.hanging with
    | zero => exact ⟨rfl, hhanging.symm⟩
    | succ hanging => cases fault <;> exact ⟨rfl, rfl⟩
  | settle => exact ⟨c.handle.runRelease_named name, rfl⟩
  | expire => exact ⟨c.handle.expire_named name, rfl⟩

theorem step_alike (h : Alike name c k) (event : Event) :
    Alike name (c.step event) (k.step event) := by
  cases event with
  | act action => exact act_alike h action
  | leave fault => exact act_alike h .close
  | chance chance => exact befall_alike h chance

/-- **The name of a client changes nothing of what happens to its handle.** -/
theorem run_alike (h : Alike name c k) (events : List Event) :
    Alike name (c.run events) (k.run events) := by
  induction events generalizing c k with
  | nil => exact h
  | cons event events ih => exact ih (step_alike h event)

end Course

/-- Nor does it matter to how many actions are begun. -/
theorem Weather.begun_alike {name : Text} {c k : Course} (h : c.Alike name k) (weather : Weather)
    (actions : List Action) : weather.begun k actions = weather.begun c actions := by
  induction actions generalizing weather c k with
  | nil => rfl
  | cons action actions ih =>
    have hmet := Course.run_alike h ((weather.headD []).map .chance)
    unfold begun
    dsimp only
    rw [hmet.hanging, ih (Course.act_alike hmet action)]

theorem Weather.conclude_transport (name : Text) {c k : Course} (h : c.Alike name k)
    (weather : Weather) (actions : List Action) :
    (weather.conclude c actions).handle.transport =
      (weather.conclude k actions).handle.transport :=
  (congrArg OutputHandle.transport (Course.run_alike h _).handle).symm

/-! ### One connection -/

namespace Dispatch

/-- Whether a handler keeps nothing of its calls: its runs are the same with all facts. -/
def Stateless (d : Dispatch Facts Command) : Prop :=
  ∀ facts facts' command, (d.handle facts command).1 = (d.handle facts' command).1

theorem conductThrough_transport (settings : ServeSettings) (client client' : Text)
    (weather : Weather) (run : HandlerRun) :
    (conductThrough settings client weather run).transport =
      (conductThrough settings client' weather run).transport := by
  have hfresh : Course.Alike client' (.fresh client settings.closeTimeout {})
      (.fresh client' settings.closeTimeout {}) := ⟨rfl, rfl⟩
  have hacted := Course.run_alike hfresh (weather.course run.actions)
  unfold conductThrough
  cases run.ending with
  | returned value =>
    refine Weather.conclude_transport client' ?_ _ [.close]
    exact ⟨hacted.handle, hacted.hanging⟩
  | failed fault =>
    refine Weather.conclude_transport client' ?_ _ [.send (.str fault.report), .close]
    exact ⟨hacted.handle, hacted.hanging⟩

theorem rejectedThrough_transport (client client' : Text) (weather : Weather) (text : Text) :
    (rejectedThrough client weather text).transport =
      (rejectedThrough client' weather text).transport := by
  unfold rejectedThrough
  cases OutputHandle.packetFor (.str text) with
  | error fault => rfl
  | ok packet =>
    dsimp only
    cases weather.write packet with
    | mk progress transport => cases progress <;> rfl

theorem identifiedThrough_transport (settings : ServeSettings) (client client' : Text)
    (weather : Weather) :
    (identifiedThrough settings client weather).transport =
      (identifiedThrough settings client' weather).transport := by
  unfold identifiedThrough
  cases settings.idResponse with
  | error fault => rfl
  | ok response =>
    dsimp only
    cases weather.write response with
    | mk progress transport => cases progress <;> rfl

/-- **A connection is answered the same under every name and with all facts**, if the handler keeps
nothing of its calls. -/
theorem serveThrough_transport {d : Dispatch Facts Command} (stateless : d.Stateless)
    (settings : ServeSettings) (client client' : Text) (facts facts' : Facts)
    (connection : Connection) :
    (d.serveThrough settings client facts connection).1.transport =
      (d.serveThrough settings client' facts' connection).1.transport := by
  unfold serveThrough serve
  cases heard settings connection.delivery with
  | message m later =>
    cases m with
    | args argv =>
      dsimp only
      cases d.read argv with
      | error text => exact rejectedThrough_transport client client' _ text
      | ok command =>
        dsimp only
        rw [stateless facts facts' command]
        exact conductThrough_transport settings client client' _ _
    | idRequest => exact identifiedThrough_transport settings client client' _
    | _ => rfl
  | refused fault =>
    cases fault with
    | closed => rfl
    | payload fault => cases fault <;> rfl
  | _ => rfl

/-- So is whether it keeps its listener for ever. -/
theorem hangs_alike {d : Dispatch Facts Command} (stateless : d.Stateless) (settings : ServeSettings)
    (client client' : Text) (facts facts' : Facts) (connection : Connection) :
    d.hangs settings client facts connection = d.hangs settings client' facts' connection := by
  have hfresh : Course.Alike client' (.fresh client settings.closeTimeout {})
      (.fresh client' settings.closeTimeout {}) := ⟨rfl, rfl⟩
  unfold hangs
  split
  · split
    · rfl
    · rename_i command _
      dsimp only
      rw [stateless facts facts' command, Weather.begun_alike hfresh]
  · rfl
  · rfl

end Dispatch

/-! ### Connections in order -/

namespace Listener

variable {d : Dispatch Facts Command}

theorem hangsOn_eq (stateless : d.Stateless) {l k : Listener Facts} (h : l.settings = k.settings)
    (connection : Connection) : l.hangsOn d connection = k.hangsOn d connection := by
  unfold hangsOn
  rw [h]
  exact Dispatch.hangs_alike stateless _ _ _ _ _ connection

/-- **A listener gets through with connections that it gets through with one by one.** -/
theorem getsThrough_of_stateless (stateless : d.Stateless) {l : Listener Facts}
    {connections : List Connection} (free : ∀ c ∈ connections, l.hangsOn d c = false) :
    l.GetsThrough d connections := by
  induction connections generalizing l with
  | nil => trivial
  | cons connection later ih =>
    obtain ⟨hfirst, hlater⟩ := List.forall_mem_cons.1 free
    have hsettings : (l.acceptThrough d connection).2.settings = l.settings := by
      rw [acceptThrough_listener]
    exact ⟨hfirst, ih fun c hmem => (hangsOn_eq stateless hsettings c).trans (hlater c hmem)⟩

/-- What a listener answers on a connection that it accepts now. -/
def answer (d : Dispatch Facts Command) (l : Listener Facts) (connection : Connection) :
    List Message :=
  (l.acceptThrough d connection).1.frames

theorem answer_eq (stateless : d.Stateless) {l k : Listener Facts} (h : l.settings = k.settings)
    (connection : Connection) : l.answer d connection = k.answer d connection := by
  unfold answer acceptThrough
  rw [h]
  exact congrArg Transport.taken (Dispatch.serveThrough_transport stateless _ _ _ _ _ connection)

/-- **Connections in order are answered as each of them alone.** -/
theorem serveAll_frames (stateless : d.Stateless) (l : Listener Facts)
    (connections : List Connection) :
    (l.serveAll d connections).1.map Served.frames = connections.map (l.answer d) := by
  induction connections generalizing l with
  | nil => rfl
  | cons connection later ih =>
    have hsettings : (l.acceptThrough d connection).2.settings = l.settings := by
      rw [acceptThrough_listener]
    rw [serveAll_cons, List.map_cons, List.map_cons, ih]
    refine congrArg (l.answer d connection :: ·) (List.map_congr_left fun other _ => ?_)
    exact answer_eq stateless hsettings other

end Listener

/-! ### Probes -/

theorem Served.delivery_congr {s k : Served} (h : s.transport = k.transport) :
    s.delivery = k.delivery := by
  unfold delivery frames
  rw [h]

namespace Site

variable {d : Dispatch Facts Command} {s : Site Facts}

theorem reach_address (d : Dispatch Facts Command) (s : Site Facts) (delivery : Delivery) :
    (s.reach d delivery).2.2.address = s.address := by
  unfold reach
  split_ifs
  · exact (settle_facts _).2
  · rfl

/-- What a visitor finds does not depend on which of two alike listeners is there. -/
theorem reach_alike (stateless : d.Stateless) {k : Listener Facts}
    (hsettings : k.settings = s.listener.settings) (hinode : k.inode = s.listener.inode)
    (delivery : Delivery) :
    (reach d { s with listener := k } delivery).1 = (s.reach d delivery).1 := by
  have hreaches : reaches { s with listener := k } = s.reaches := by
    unfold reaches
    rw [hinode]
  have hserved : (k.accept d delivery).1.transport = (s.listener.accept d delivery).1.transport := by
    rw [← Listener.acceptThrough_fair, ← Listener.acceptThrough_fair]
    unfold Listener.acceptThrough
    rw [hsettings]
    exact Dispatch.serveThrough_transport stateless _ _ _ _ _ _
  unfold reach
  rw [hreaches]
  split_ifs
  · exact congrArg (fun answer : Delivery => (.ok answer : Contact)) (Served.delivery_congr hserved)
  · rfl

theorem probe_alike (stateless : d.Stateless) {k : Listener Facts}
    (hsettings : k.settings = s.listener.settings) (hinode : k.inode = s.listener.inode)
    (timeout : Instant) :
    (probe d { s with listener := k } timeout).1 = (s.probe d timeout).1 := by
  unfold probe
  split_ifs
  · rfl
  · dsimp only
    rw [reach_alike stateless hsettings hinode, reach_address, reach_address]

/-- What a probe sends is heard as the question for the process id, if there is time to hear it. -/
theorem hears_probeRequest {settings : ServeSettings}
    (hrequest : settings.requestTimeout.isAtMostZero = false) {timeout : Instant}
    (hnumber : timeout.isNotANumber = false) :
    settings.Hears (Delivery.ofMessages (Client.probeRequest timeout)).bytes .idRequest := by
  refine ⟨hrequest, ((Frame.encode .idRequest).toOption).getD [], [], ?_, Frame.decode_encode rfl⟩
  rw [Client.probeRequest, hnumber]
  rfl

/-- **A probe that has any time finds the process id of a listener** that has any time for requests. -/
theorem probe_of_reaches (d : Dispatch Facts Command) (hreaches : s.reaches = true) {pid : Pid}
    (hpid : s.listener.settings.pid = pid.val)
    (hrequest : s.listener.settings.requestTimeout.isAtMostZero = false) {timeout : Instant}
    (htime : timeout.isAtMostZero = false) (hnumber : timeout.isNotANumber = false) :
    (s.probe d timeout).1 = .ok (some pid) := by
  have hhears := hears_probeRequest hrequest hnumber
  obtain ⟨frame, hframe⟩ := Frame.encode_idResponse pid
  have htransport : (d.serve s.listener.settings s.listener.nextClient s.listener.facts
      (.ofMessages (Client.probeRequest timeout))).1.transport =
        { taken := [.idResponse pid], closes := 1 } := by
    rw [Dispatch.serve_of_hears d _ _ _ hhears]
    show (Dispatch.reply _ _ .idRequest).transport.close = _
    rw [Dispatch.reply_idRequest _ _ hpid]
    rfl
  obtain ⟨trace, later, hreach, _, _⟩ := reach_of_reaches d hreaches
    (.ofMessages (Client.probeRequest timeout))
  rw [Served.delivery_congr (k := { transport := { taken := [.idResponse pid], closes := 1 } })
    htransport] at hreach
  have hanswer : Served.delivery { transport := { taken := [.idResponse pid], closes := 1 } }
      = { bytes := frame ++ [] } := by
    show Delivery.mk ((((Frame.encode (.idResponse pid)).toOption).getD []) ++ []) _ = _
    rw [hframe]
    rfl
  unfold probe
  rw [if_neg (by rw [htime]; exact Bool.false_ne_true), hreach, hanswer]
  dsimp only [Client.probe, Client.ask, Client.pidOf]
  rw [htime, hnumber, Delivery.receive_encode hframe]
  rfl

end Site

/-! ### The accept loop -/

/-- The same listener, freshly started. -/
def Listener.renewed (l : Listener Facts) : Listener Facts := { l with connections := 0, token := {} }

namespace Dispatch

/-- A run is that of a command of one of the connections. -/
theorem exists_of_mem_runs {d : Dispatch Facts Command} {settings : ServeSettings} {facts : Facts}
    {connections : List Connection} {run : HandlerRun}
    (h : some run ∈ d.runs settings facts connections) :
    ∃ connection ∈ connections, ∃ command facts,
      d.command? settings connection.delivery = some command ∧ run = (d.handle facts command).1 := by
  induction connections generalizing facts with
  | nil => cases h
  | cons connection later ih =>
    rw [runs_cons d settings []] at h
    obtain hhead | hlater := List.mem_cons.1 h
    · obtain ⟨command, hcommand, hrun⟩ := Option.map_eq_some_iff.1 hhead.symm
      exact ⟨connection, List.mem_cons_self, command, facts, hcommand, hrun.symm⟩
    · obtain ⟨other, hmem, hother⟩ := ih hlater
      exact ⟨other, List.mem_cons_of_mem _ hmem, hother⟩

end Dispatch

namespace Loop

/-- The loop of a freshly started listener that has served a single connection. -/
def alone (d : Dispatch Facts Command) (l : Listener Facts) (connection : Connection) : Loop Facts :=
  Loop.run d { listener := l.renewed } [.connect connection, .turn, .turn, .turn]

/-- Nobody ends the loop of a listener: its token is not retired, from the beginning or from outside,
and no command asks for the end. -/
structure Peaceful (d : Dispatch Facts Command) (l : Listener Facts) (moves : List Move) : Prop where
  unretired : l.token.retired = false
  outside : retirements moves = []
  inside : ∀ connection ∈ arrivals moves, ∀ command,
    d.command? l.settings connection.delivery = some command →
      ¬ (d.handle l.facts command).1.AsksEnd

variable {d : Dispatch Facts Command} {l : Listener Facts}

theorem alone_served (stateless : d.Stateless) {connection : Connection}
    (free : l.hangsOn d connection = false) :
    (alone d l connection).served = [(l.renewed.acceptThrough d connection).1] := by
  have hretired : l.renewed.token.retired = false := rfl
  have hfree : l.renewed.hangsOn d connection = false :=
    (Listener.hangsOn_eq (l := l.renewed) (k := l) stateless rfl connection).trans free
  simp [alone, step, turn, hretired, hfree]

/-- **A loop that nobody ends goes on.** -/
theorem run_peaceful (stateless : d.Stateless) {moves : List Move} (peaceful : Peaceful d l moves) :
    (Loop.run d { listener := l } moves).listener.token.retired = false ∧
      (Loop.run d { listener := l } moves).stage ≠ .ended := by
  obtain ⟨seen, hserves⟩ := run_serves (serves_begin d l) moves
  have hminds := run_minds (d := d) (minds_begin l) moves
  rw [List.nil_append] at hserves hminds
  have hgoing : ¬ (Loop.run d { listener := l } moves).Terminated := by
    intro hterminated
    obtain ⟨run, hrun, hasks⟩ := hserves.terminated_iff.1 hterminated
    obtain ⟨connection, hmem, command, facts, hcommand, rfl⟩ := Dispatch.exists_of_mem_runs hrun
    rw [stateless facts l.facts command] at hasks
    exact peaceful.inside connection (hserves.first.subset hmem) command hcommand hasks
  have hretired : (Loop.run d { listener := l } moves).listener.token.retired = false := by
    rw [Bool.eq_false_iff]
    intro hretired
    obtain hbefore | houtside | hterminated := hminds.retired.1 hretired
    · rw [peaceful.unretired] at hbefore
      cases hbefore
    · exact houtside peaceful.outside
    · exact hgoing hterminated
  refine ⟨hretired, fun hended => ?_⟩
  rw [hminds.finished hended] at hretired
  cases hretired

/-- A single client of a freshly started listener is served, and nothing else happens. -/
theorem alone_atRest (stateless : d.Stateless) {moves : List Move} (peaceful : Peaceful d l moves)
    {connection : Connection} (hmem : connection ∈ arrivals moves)
    (free : l.hangsOn d connection = false) : (alone d l connection).AtRest := by
  have hpeaceful : Peaceful d l.renewed [.connect connection, .turn, .turn, .turn] := by
    refine ⟨rfl, rfl, fun other hother command hcommand => ?_⟩
    rw [List.mem_singleton.1 hother] at hcommand
    exact peaceful.inside connection hmem command hcommand
  have hretired : l.renewed.token.retired = false := rfl
  have hfree : l.renewed.hangsOn d connection = false :=
    (Listener.hangsOn_eq (l := l.renewed) (k := l) stateless rfl connection).trans free
  exact .inr ⟨by simp [alone, step, turn, hretired, hfree],
    by simp [alone, step, turn, hretired, hfree], (run_peaceful stateless hpeaceful).1⟩

/-- What was written on the connections that were served is what a freshly started listener writes
for each of them alone. -/
theorem run_frames_alone (stateless : d.Stateless) {moves : List Move}
    (free : ∀ connection ∈ arrivals moves, l.hangsOn d connection = false) :
    let loop := Loop.run d { listener := l } moves
    loop.frames = ((arrivals moves).take loop.served.length).map fun connection =>
      (alone d l connection).frames.flatten := by
  intro loop
  obtain ⟨seen, hserves⟩ := run_serves (serves_begin d l) moves
  rw [List.nil_append] at hserves
  rw [← hserves.seen_eq_take, frames, hserves.served, Listener.serveAll_frames stateless]
  refine List.map_congr_left fun connection hmem => ?_
  rw [frames, alone_served stateless (free connection (hserves.first.subset hmem)),
    List.map_singleton, List.flatten_singleton]
  exact Listener.answer_eq (l := l) (k := l.renewed) stateless rfl connection

/-- At rest a loop that nobody ends has served everyone who came. -/
theorem length_served_of_atRest (stateless : d.Stateless) {moves : List Move}
    (peaceful : Peaceful d l moves) (rest : (Loop.run d { listener := l } moves).AtRest) :
    (Loop.run d { listener := l } moves).served.length = (arrivals moves).length := by
  obtain ⟨seen, hserves⟩ := run_serves (serves_begin d l) moves
  rw [List.nil_append] at hserves
  obtain hended | ⟨hwaiting, hbacklog, _⟩ := rest
  · exact absurd hended (run_peaceful stateless peaceful).2
  · rw [hserves.served, Listener.length_serveAll, hserves.seen_eq_came hwaiting hbacklog]

/-- Everyone who came, with what was written for them. -/
theorem zip_frames_of_atRest (stateless : d.Stateless) {moves : List Move}
    (peaceful : Peaceful d l moves)
    (free : ∀ connection ∈ arrivals moves, l.hangsOn d connection = false)
    (rest : (Loop.run d { listener := l } moves).AtRest) :
    (arrivals moves).zip (Loop.run d { listener := l } moves).frames =
      (arrivals moves).map fun connection =>
        (connection, (alone d l connection).frames.flatten) := by
  rw [run_frames_alone stateless free, length_served_of_atRest stateless peaceful rest,
    List.take_length, List.map_prod_left_eq_zip]

/-- What a run leaves of a listener that nobody ends: its settings and its socket, and a count of the
connections. -/
theorem run_listener (stateless : d.Stateless) {moves : List Move} (peaceful : Peaceful d l moves) :
    let loop := Loop.run d { listener := l } moves
    loop.listener.settings = l.settings ∧ loop.listener.inode = l.inode ∧
      loop.listener.connections = l.connections + loop.served.length := by
  intro loop
  obtain ⟨seen, hserves⟩ := run_serves (serves_begin d l) moves
  refine ⟨?_, hserves.socket (run_peaceful stateless peaceful).2, ?_⟩
  · exact (congrArg Listener.settings hserves.core).trans (l.serveAll_settings d seen)
  · rw [hserves.served, Listener.length_serveAll]
    exact (congrArg Listener.connections hserves.core).trans (l.serveAll_connections d seen)

/-- **Connections are apart from each other**, where the handler keeps nothing of its calls and nobody
ends the loop, whatever the clients deliver and their writing ends meet, as long as every write ends
some time or other: the client takes what it is sent, or is gone.

* The loop goes on, with its token, and comes to rest; each connection counts, and at rest everyone
  who came was served.
* On each connection is written what a freshly started listener writes for it alone.
* So the same connections in another order are answered the same, each of them.
* A probe finds at rest what it would have found before: the process id, if there is any time. -/
theorem connections_isolated (stateless : d.Stateless) {moves : List Move}
    (peaceful : Peaceful d l moves)
    (free : ∀ connection ∈ arrivals moves, l.hangsOn d connection = false) :
    let loop := Loop.run d { listener := l } moves
    let came := arrivals moves
    let seen := came.take loop.served.length
    (loop.listener.token.retired = false ∧ loop.stage ≠ .ended ∧
      ∃ turns, (loop.run d (List.replicate turns .turn)).AtRest) ∧
    (loop.listener.connections = l.connections + loop.served.length ∧
      (loop.AtRest → loop.served.length = came.length)) ∧
    ((∀ connection ∈ came,
        (alone d l connection).AtRest ∧ (alone d l connection).served.length = 1) ∧
      loop.frames = seen.map fun connection => (alone d l connection).frames.flatten) ∧
    (∀ other, retirements other = [] → (arrivals other).Perm came →
      let exchanged := Loop.run d { listener := l } other
      loop.AtRest → exchanged.AtRest →
        ((arrivals other).zip exchanged.frames).Perm (came.zip loop.frames)) ∧
    (loop.AtRest → ∀ (s : Site Facts) (timeout : Instant), s.listener = l →
      let later : Site Facts := { s with listener := loop.listener }
      (later.probe d timeout).1 = (s.probe d timeout).1 ∧
      ∀ pid : Pid, s.reaches = true → l.settings.pid = pid.val →
        l.settings.requestTimeout.isAtMostZero = false → timeout.isAtMostZero = false →
        timeout.isNotANumber = false → (later.probe d timeout).1 = .ok (some pid)) := by
  intro loop came seen
  obtain ⟨hretired, hgoing⟩ := run_peaceful stateless peaceful
  obtain ⟨hsettings, hinode, hconnections⟩ := run_listener stateless peaceful
  obtain ⟨served, hserves⟩ := run_serves (serves_begin d l) moves
  rw [List.nil_append] at hserves
  have hrests := hserves.exists_atRest (Listener.getsThrough_of_stateless stateless free)
  refine ⟨⟨hretired, hgoing, hrests⟩,
    ⟨hconnections, length_served_of_atRest stateless peaceful⟩,
    ⟨fun connection hmem =>
        ⟨alone_atRest stateless peaceful hmem (free connection hmem), ?alone⟩,
      run_frames_alone stateless free⟩, ?exchanged, ?probed⟩
  case alone =>
    rw [alone_served stateless (free connection hmem)]
    rfl
  case exchanged =>
    intro other houtside hperm exchanged rest hrest
    have hother : Peaceful d l other :=
      ⟨peaceful.unretired, houtside, fun connection hmem =>
        peaceful.inside connection (hperm.subset hmem)⟩
    have hfree : ∀ connection ∈ arrivals other, l.hangsOn d connection = false :=
      fun connection hmem => free connection (hperm.subset hmem)
    rw [zip_frames_of_atRest stateless hother hfree hrest,
      zip_frames_of_atRest stateless peaceful free rest]
    exact hperm.map _
  case probed =>
    intro _ s timeout hlistener later
    have hsame : (later.probe d timeout).1 = (s.probe d timeout).1 :=
      Site.probe_alike stateless (hlistener ▸ hsettings) (hlistener ▸ hinode) timeout
    refine ⟨hsame, fun pid hreaches hpid hrequest htime hnumber => ?_⟩
    rw [hsame]
    exact Site.probe_of_reaches d hreaches (hlistener ▸ hpid) (hlistener ▸ hrequest) htime hnumber

/-- A listener on its socket, with some time for requests, and clients that use its address. -/
def greeting (requestTimeout : Instant) : Site Unit where
  machine := { files := { entries := [(⟨false, ["ctl.sock"]⟩, .socket 7)] } }
  listener :=
    { path := "ctl.sock"
      settings := { pid := 4242, requestTimeout, closeTimeout := .ofInt 1 }
      facts := ()
      inode := some 7 }
  address := "ctl.sock"

/-- A client with a command, whose writing end meets something. -/
def greeted (weather : Weather) : Connection where
  delivery := { bytes := ((Frame.encode (.args ["prog", "hi"])).toOption).getD [] }
  weather := weather

/-- A client that hangs up within a header, one with a command that takes its answer late and stops
reading before the end, and one that says nothing. -/
def visitors : List Connection :=
  [{ delivery := { bytes := [1, 2, 3] } }, greeted [[.mode { stalls := true }], [.wake none]],
    { delivery := { manner := .staysSilent } }]

/-- The loop of a listener that these clients come to. -/
def visited : Loop Unit :=
  Loop.run Dispatch.greeter { listener := (greeting (.whole 2)).listener }
    (visitors.map .connect ++ List.replicate 9 .turn)

/-- The command among them is answered as if it were alone, and a probe finds the listener after all
three. -/
theorem greeting_isolated :
    visited.listener.token.retired = false ∧ visited.listener.connections = 3 ∧
      visited.frames = [[], [.packet "hello", .closeSocket], []] ∧
      (Site.probe Dispatch.greeter { greeting (.whole 2) with listener := visited.listener }
        (.whole 5)).1 = .ok (some 4242) := by
  have hcame : arrivals (visitors.map .connect ++ List.replicate 9 .turn) = visitors := by
    decide +kernel
  have hpeaceful : Peaceful Dispatch.greeter (greeting (.whole 2)).listener
      (visitors.map .connect ++ List.replicate 9 .turn) := by
    refine ⟨rfl, rfl, fun connection _ command _ => ?_⟩
    simp [HandlerRun.AsksEnd, Dispatch.greeter]
  have hfree : ∀ connection ∈ arrivals (visitors.map .connect ++ List.replicate 9 .turn),
      (greeting (.whole 2)).listener.hangsOn Dispatch.greeter connection = false := by
    rw [hcame]
    decide +kernel
  obtain ⟨⟨hretired, _, _⟩, ⟨hconnections, _⟩, ⟨_, hframes⟩, _, hprobed⟩ :=
    connections_isolated (fun _ _ _ => rfl) hpeaceful hfree
  have hserved : visited.served.length = 3 := by decide +kernel
  have hwaiting : visited.stage = .waiting := by decide +kernel
  rw [← visited] at hretired hconnections hframes hprobed
  have hrest : visited.AtRest := .inr ⟨hwaiting, by decide +kernel, hretired⟩
  rw [hserved] at hconnections
  rw [hserved, hcame] at hframes
  refine ⟨hretired, hconnections, ?_, ?_⟩
  · rw [hframes]
    decide +kernel
  · exact (hprobed hrest (greeting (.whole 2)) (.whole 5) rfl).2 4242 (by decide) rfl (by decide)
      (by decide) (by decide)

/-- The loop of a listener after some turns, to which a client comes that never takes its answer, and
then another one. -/
def besieged (turns : Nat) : Loop Unit :=
  Loop.run Dispatch.greeter { listener := (greeting (.whole 2)).listener }
    ([.connect (greeted [[.mode { stalls := true }]]), .connect (greeted [])] ++
      List.replicate turns .turn)

/-- **Without time for requests no one finds the process id**, and **a client that never takes its
answer keeps the loop for ever**: nobody is served, neither it nor the one that comes after it. -/
theorem hurried_unfound_besieged_unserved :
    (Site.probe Dispatch.greeter (greeting (.whole 0)) (.whole 5)).1 = .ok none ∧
      ∀ turns, (besieged turns).stage ≠ .ended ∧ (besieged turns).backlog ≠ [] ∧
        (besieged turns).served = [] := by
  have hstuck : ∀ turns, besieged (2 + turns) = besieged 2 := by
    intro turns
    have hserving : (besieged 2).stage = .serving (greeted [[.mode { stalls := true }]]) := rfl
    have hhangs : (besieged 2).listener.hangsOn Dispatch.greeter
        (greeted [[.mode { stalls := true }]]) = true := by decide +kernel
    have hstays := run_of_hung hserving hhangs turns
    rw [besieged, ← run_append, List.append_assoc, List.replicate_append_replicate] at hstays
    exact hstays
  refine ⟨by decide +kernel, fun turns => ?_⟩
  match turns with
  | 0 => exact ⟨by decide +kernel, by decide +kernel, rfl⟩
  | 1 => exact ⟨by decide +kernel, by decide +kernel, rfl⟩
  | turns + 2 =>
    rw [Nat.add_comm, hstuck]
    exact ⟨by decide +kernel, by decide +kernel, rfl⟩

end Loop

end ControlChannel
