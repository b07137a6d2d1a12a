import ControlChannel.Proofs.EchoedWords
import ControlChannel.Proofs.TenureRuns
import ControlChannel.Service.Run
import Mathlib.Data.List.ReduceOption

/-!
# The built-in commands over a whole run

* `Tenure.run_connect`, `Service.visit_connect` — **a visit is what one connection makes of a
  service**: it comes, and the loop goes on until it rests;
* `ServiceState.Tellable` — facts that can be told: no number has too many digits;
* `ServiceState.getLast?_spoken_status`, `ServiceState.spoken_kill` — what `status` and `kill` say;
* `Service.serveAll_facts` — **every command counts, and nothing else does**;
* `Service.run_of_command` — the call for a command meets the count of those before it;
* `Service.asksEnd_calls_iff` — only `kill` asks for the end;
* `Service.counts_commands_until_kill` — the whole run of a service.
-/

namespace ControlChannel

/-! ### A service and its serving -/

/-- A connection comes, and is accepted and served, over a writing end that meets nothing. -/
theorem Tenure.run_connect {Facts Command : Type} (d : Dispatch Facts Command) {l : Listener Facts}
    (unretired : l.token.retired = false) (files : FileTree) (delivery : Delivery) :
    Tenure.run d { loop := { listener := l }, files }
        (.loop (.connect { delivery }) :: List.replicate 3 (.loop .turn)) =
      { loop := { listener := (l.accept d delivery).2, served := [(l.accept d delivery).1] }
        files
        ends := [d.writingEnd l.settings l.nextClient l.facts { delivery }] } := by
  have hfree : l.hangsOn d { delivery } = false :=
    l.hangsOn_of_flows d fun _ hmem => by cases hmem
  rw [← Listener.acceptThrough_fair]
  simp [List.replicate, step, turn, Loop.step, Loop.turn, unretired, hfree]

/-- Two more turns end a loop whose token is retired, and wait for what is under way. -/
theorem Tenure.turns_of_retired {Facts Command : Type} (d : Dispatch Facts Command)
    {l : Listener Facts} (retired : l.token.retired = true) (served : List Served) (files : FileTree)
    (ends : List WritingEnd) :
    let t := Tenure.run d { loop := { listener := l, served }, files, ends }
      (List.replicate 2 (.loop .turn))
    t.waited = true ∧ t.loop.listener = { l with inode := none } ∧ t.files = (l.close files).2 := by
  have hended : Tenure.run d { loop := { listener := l, served }, files, ends }
      (List.replicate 2 (.loop .turn)) =
        Tenure.wait
          { loop := Loop.finish { listener := l, served }, files := (l.close files).2, ends } := by
    simp [List.replicate, step, turn, Loop.turn, Loop.finish, retired]
  intro t
  rw [show t = _ from hended]
  refine ⟨wait_waited _, ?_, ?_⟩
  · rw [wait_loop]
    rfl
  · rw [wait_files]

theorem Listener.close_fst {Facts : Type} (l : Listener Facts) (files : FileTree) :
    (l.close files).1 = { l with inode := none } := by
  unfold close
  split
  · rename_i hnone
    rw [← hnone]
  · rfl

namespace Site

/-- Closing a socket that is closed changes nothing. -/
theorem close_of_unbound {Facts : Type} {s : Site Facts} (unbound : s.listener.inode = none) :
    s.close = s := by
  rw [close, Listener.close, unbound]
  rfl

/-- A listener whose token is retired closes its socket. -/
theorem settle_of_retired {Facts : Type} {s : Site Facts} (retired : s.listener.token.retired = true) :
    s.settle = withFiles { s with listener := { s.listener with inode := none } }
      (s.listener.close s.machine.files).2 := by
  rw [settle, if_pos retired, ← s.listener.close_fst s.machine.files]
  rfl

/-- A listener that was started has bound its socket. -/
theorem start_listener {Facts : Type} {s site : Site Facts} (h : s.start = (.ok (), site)) :
    ∃ inode, site.listener = { s.listener with inode := some inode } := by
  unfold start at h
  dsimp only at h
  split at h
  · rename_i listener files hlistener
    cases h
    unfold Listener.start at hlistener
    split at hlistener
    · cases hlistener
      exact ⟨_, rfl⟩
    · cases hlistener
  · cases h

end Site

namespace Service

/-- A service whose socket is closed ends its run where it is. -/
theorem finish_of_unbound {s : Service} (running : s.ended = none) (retired : s.token.retired = true)
    (unbound : s.site.listener.inode = none) :
    s.finish = { s with ended := some .finished } := by
  have hsettle : s.site.settle = s.site := by
    rw [Site.settle, if_pos (show s.site.listener.token.retired = true from retired),
      Site.close_of_unbound unbound]
  rw [finish, running, retired, hsettle]
  rfl

/-- When serving is over and the socket is closed, the run ends with that. -/
theorem after_of_waited (s : Service) {t : Tenure ServiceState} (waited : t.waited = true)
    (unbound : t.loop.listener.inode = none) :
    s.after t =
      { site := { s.site with listener := t.loop.listener }.withFiles t.files
        ended := some .finished } := by
  rw [after, if_pos waited, Site.close_of_unbound unbound]

/-- **A visit is what one connection makes of a service**: it comes, and the loop goes on until it
rests. -/
theorem visit_connect (surroundings : Surroundings) (now patience : Instant) {s : Service}
    (reaches : s.site.reaches = true) (running : s.ended = none) (unretired : s.token.retired = false)
    (delivery : Delivery) :
    ∃ turns, (s.visit surroundings now patience (.connect delivery)).2.2 =
      s.after (s.tenure.run (surroundings.clockedDispatch fun _ => now)
        (.loop (.connect { delivery }) :: List.replicate turns (.loop .turn))) := by
  let d := surroundings.clockedDispatch fun _ => now
  let l := s.site.listener
  let left := (l.accept d delivery).2
  have hreach : s.site.reach d delivery =
      (.ok (l.accept d delivery).1.delivery, l.trace d delivery,
        Site.settle { s.site with listener := left }) := by
    rw [Site.reach, if_pos reaches]
  have hvisit : (s.visit surroundings now patience (.connect delivery)).2.2 =
      Service.finish { s with site := Site.settle { s.site with listener := left } } := by
    unfold visit Site.visit
    dsimp only
    rw [show s.site.reach (surroundings.controlDispatch now) delivery = _ from hreach]
  have hserved := Tenure.run_connect d unretired s.site.machine.files delivery
  rw [hvisit]
  cases hretired : left.token.retired with
  | false =>
    refine ⟨3, ?_⟩
    rw [show s.tenure.run _ _ = _ from hserved]
    simp [finish, Site.settle, after, token, Site.withFiles, hretired, left, l]
  | true =>
    refine ⟨5, ?_⟩
    obtain ⟨hwaited, hlistener, hfiles⟩ := Tenure.turns_of_retired d hretired
      [(l.accept d delivery).1] s.site.machine.files
      [d.writingEnd l.settings l.nextClient l.facts { delivery }]
    rw [show (5 : Nat) = 3 + 2 from rfl, ← List.replicate_append_replicate, ← List.cons_append,
      Tenure.run_append, show s.tenure.run _ _ = _ from hserved,
      after_of_waited s hwaited (by rw [hlistener]), hlistener, hfiles,
      Site.settle_of_retired hretired]
    exact finish_of_unbound (s := { s with site := _ }) running hretired rfl

/-- A service that was launched has bound its socket, and handled no command yet. -/
theorem launch_listener {config : Config} {pid : Int} {started : Instant} {machine : Machine}
    (running : ((ofConfig config pid started machine).launch).ended = none) :
    ∃ inode, ((ofConfig config pid started machine).launch).site.listener =
      { (ofConfig config pid started machine).site.listener with inode := some inode } := by
  generalize hs : ofConfig config pid started machine = s at running ⊢
  have htoken : s.site.listener.token.retired = false := by rw [← hs]; rfl
  unfold launch at running ⊢
  cases hstart : s.site.start with
  | mk result site =>
    rw [hstart] at running
    cases result with
    | error failure => cases running
    | ok _ =>
      obtain ⟨inode, hlistener⟩ := Site.start_listener hstart
      refine ⟨inode, ?_⟩
      have hunretired : ({ s with site } : Service).token.retired = false := by
        rw [token, hlistener]
        exact htoken
      show (Service.finish { s with site }).site.listener = _
      rw [finish, hunretired, Bool.and_false, if_neg Bool.false_ne_true]
      exact hlistener

/-- What a launched service begins with: its facts, a token that nobody retired, and its time for
closing. -/
theorem launch_fresh {config : Config} {pid : Int} {started : Instant} {machine : Machine}
    (running : ((ofConfig config pid started machine).launch).ended = none) :
    let l := ((ofConfig config pid started machine).launch).site.listener
    l.facts = ⟨config.programName, pid, started, 0⟩ ∧ l.token = {} ∧
      l.settings.closeTimeout = config.closeTimeout := by
  obtain ⟨inode, hlistener⟩ := launch_listener running
  rw [hlistener]
  exact ⟨rfl, rfl, rfl⟩

end Service

/-! ### The end of serving -/

namespace Loop

variable {Facts : Type} {l : Listener Facts} {loop : Loop Facts}

/-- A token that nobody else retires is retired exactly if a command did. -/
theorem Minds.retired_iff (h : Minds l [] loop) (fresh : l.token = {}) :
    loop.listener.token.retired = true ↔ loop.Terminated := by
  rw [h.retired, fresh]
  simp [ShutdownToken.retired]

theorem Minds.reason_of_retired (h : Minds l [] loop) (fresh : l.token = {})
    (retired : loop.listener.token.retired = true) :
    loop.listener.token.reason = some Listener.commandReason := by
  obtain ⟨reason, hreason⟩ := Option.isSome_iff_exists.1 retired
  have hwhy := h.reason reason hreason
  rw [fresh] at hwhy
  obtain hbefore | houtside | ⟨rfl, _⟩ := hwhy
  · cases hbefore
  · cases houtside
  · exact hreason

end Loop

namespace Tenure

variable {moves : List Move} (quiet : Loop.retirements (loopMoves moves) = [])
include quiet

/-- Only commands retire a token that nobody else retires. -/
theorem minds_run {Facts Command : Type} (d : Dispatch Facts Command) (l : Listener Facts)
    (files : FileTree) :
    Loop.Minds l [] (Tenure.run d { loop := { listener := l }, files } moves).loop := by
  have hrun := Loop.run_minds (d := d) (Loop.minds_begin l) (loopMoves moves)
  rw [quiet, List.append_nil] at hrun
  rw [run_loop]
  exact hrun

/-- Turns retire no token from outside. -/
theorem quiet_turns (turns : Nat) :
    Loop.retirements (loopMoves (moves ++ List.replicate turns (.loop .turn))) = [] := by
  have hmoves : loopMoves (moves ++ List.replicate turns (.loop .turn)) =
      loopMoves moves ++ List.replicate turns .turn := by
    rw [← loopMoves_turns]
    exact List.filterMap_append
  have hturns : Loop.retirements (List.replicate turns .turn) = [] := by simp [Loop.retirements]
  rw [hmoves, Loop.retirements, List.filterMap_append]
  exact List.append_eq_nil_iff.2 ⟨quiet, hturns⟩

end Tenure

/-! ### What the commands say -/

instance Json.decidableEqStr (value : Json) (text : Text) : Decidable (value = .str text) :=
  match value with
  | .str other => decidable_of_iff (other = text) (Json.str.injEq other text).symm.to_iff
  | .null | .bool _ | .int _ | .double _ | .list _ | .object _ => .isFalse Json.noConfusion

namespace ServiceState

/-- The last line of the answer to `status`. -/
def handledLine (count : Nat) : Text := "  Commands handled: " ++ Text.ofNat count ++ "\n"

/-- The last line of the answer to `status` has a frame. -/
theorem encode_handledLine {count : Nat}
    (hdigits : (Text.ofNat count).length ≤ Numeral.mostDigits) :
    (Frame.encode (.packet (handledLine count))).isOk = true := by
  have hscalar : Text.isScalar (handledLine count) = true := by
    rw [handledLine, Text.isScalar_append, Text.isScalar_append, Text.isScalar_ofNat]
    rfl
  have hsize : (Frame.payload (.packet (handledLine count))).length ≤ Frame.mostBytes := by
    rw [Frame.length_payload_packet, handledLine, Json.weight_append, Json.weight_append,
      Json.weight_ofNat, show Json.weight "  Commands handled: " = 20 by decide,
      show Json.weight "\n" = 2 by decide, Frame.mostBytes]
    rw [Numeral.mostDigits] at hdigits
    omega
  have hunpaired : ∀ c ∈ handledLine count, c.isSurrogate = false := fun c hc => by
    simpa using List.all_eq_true.1 hscalar c hc
  rw [(Frame.encode_eq_ok_iff (.packet (handledLine count)) _).2
    ⟨List.forall_mem_singleton.2 hunpaired, hsize, rfl⟩]
  rfl

variable (s : ServiceState) (now : Instant) {i : Invocation}

/-- The facts can be told: the clock tells whole seconds since the start, and no number has too many
digits to be written. -/
structure Tellable : Prop where
  pid : (Numeral.write? s.pid).isSome
  uptime : ∃ seconds, (now.since s.startedAt).truncate = .ok seconds ∧ (uptimeText seconds).isSome
  count : (Numeral.write? s.commandsHandled).isSome

/-- The number of commands is written whole if it is written at all. -/
theorem numeral_count {count : Nat} (h : (Numeral.write? count).isSome) :
    numeral count = .ok (Text.ofNat count) ∧ (Text.ofNat count).length ≤ Numeral.mostDigits := by
  unfold numeral
  unfold Numeral.write? at h ⊢
  rw [Int.natAbs_natCast] at h ⊢
  split_ifs at h ⊢ with hlong
  · cases h
  · exact ⟨rfl, Nat.le_of_not_lt hlong⟩

/-- Facts that can be told are told whole, with the number of commands last. -/
theorem status_of_tellable {s : ServiceState} {now : Instant} (h : s.Tellable now) {count : Nat}
    (hcount : s.commandsHandled = count) :
    ∃ who since, s.status now =
      sending [who, since, handledLine count] (.returned (.bool false)) := by
  obtain ⟨pid, hpid⟩ := Option.isSome_iff_exists.1 h.pid
  obtain ⟨seconds, htime, hsince⟩ := h.uptime
  obtain ⟨since, hsince⟩ := Option.isSome_iff_exists.1 hsince
  have hnumber := (numeral_count (hcount ▸ h.count)).1
  have hwho : numeral s.pid = .ok pid := by rw [numeral, hpid]; rfl
  have huptime : s.uptime now = .ok since := by
    rw [uptime, htime]
    simp [Except.mapError, bind, Except.bind, hsince]
  unfold status
  rw [hwho, huptime, hcount, hnumber]
  exact ⟨_, _, telling_ok [_, _, _] _⟩

/-- **The answer to `status` ends with the number of commands, itself included**, if the facts can be
told. -/
theorem getLast?_spoken_status (hcommand : i.command = .str "status") {count : Nat}
    (hcount : s.commandsHandled = count)
    (htold : ({ s with commandsHandled := count + 1 } : ServiceState).Tellable now) :
    (s.execute now i).1.spoken.getLast? = some (handledLine (count + 1)) := by
  have hdigits := (numeral_count htold.count).2
  obtain ⟨who, since, hstatus⟩ := status_of_tellable htold rfl
  have hrun : (s.execute now i).1 =
      sending [who, since, handledLine (count + 1)] (.returned (.bool false)) := by
    rw [← hstatus, execute, hcommand, hcount]
    rfl
  have hlast : [who, since, handledLine (count + 1)] = [who, since] ++ [handledLine (count + 1)] := rfl
  have hkept : [handledLine (count + 1)].filter (fun text => (Frame.encode (.packet text)).isOk) =
      [handledLine (count + 1)] :=
    List.filter_eq_self.2 (List.forall_mem_singleton.2 (encode_handledLine hdigits))
  rw [hrun, spoken_sending, hlast, List.filter_append, hkept, List.getLast?_concat]

/-- The answer to `kill`. -/
theorem spoken_kill (hcommand : i.command = .str "kill") :
    (s.execute now i).1.spoken = ([("Killing...\n" : Text)] : List Text) := by
  have hrun : (s.execute now i).1 =
      sending [("Killing...\n" : Text)] (.returned (.bool true)) := by
    unfold execute
    rw [hcommand]
    rfl
  rw [hrun, spoken_sending]
  decide

end ServiceState

namespace Service

/-! ### The commands in order -/

section

variable {surroundings : Surroundings} {clock : Int → Instant} {settings : ServeSettings}
  {facts : ServiceState} {connections : List Connection}
  {calls : List (Option (Invocation × HandlerRun))}

/-- **Every command counts, and nothing else does.** -/
theorem serveAll_facts {l : Listener ServiceState} (hsettings : l.settings = settings)
    (h : (surroundings.clockedDispatch clock).Calls settings l.facts connections calls) :
    (l.serveAll (surroundings.clockedDispatch clock) connections).2.facts =
      { l.facts with
        commandsHandled := l.facts.commandsHandled + calls.reduceOption.length } := by
  induction connections generalizing l calls with
  | nil =>
    cases h
    exact congrArg (fun handled => { l.facts with commandsHandled := handled }) (Int.add_zero _).symm
  | cons connection later ih =>
    rw [Listener.serveAll_cons]
    have hafter := l.acceptThrough_listener (surroundings.clockedDispatch clock) connection
    have hsettings' : (l.acceptThrough (surroundings.clockedDispatch clock) connection).2.settings
        = settings := (congrArg Listener.settings hafter).trans hsettings
    have hfacts := congrArg Listener.facts hafter
    dsimp only at hfacts
    cases h with
    | skip silent rest =>
      have hnone := Dispatch.command?_of_silent _ _ silent
      rw [← hsettings] at hnone
      rw [(Dispatch.serveThrough_of_none _ l.settings l.nextClient l.facts hnone).2] at hfacts
      rw [← hfacts] at rest ⊢
      rw [List.reduceOption_cons_of_none]
      exact ih hsettings' rest
    | @call _ _ _ command calls orders rest =>
      have hsome := (Dispatch.command?_eq_some_iff _ _).2 orders
      rw [← hsettings] at hsome
      rw [Dispatch.serveThrough_of_command _ l.settings l.nextClient l.facts hsome] at hfacts
      have hcalled : ((surroundings.clockedDispatch clock).handle l.facts command).2 =
          { l.facts with commandsHandled := l.facts.commandsHandled + 1 } :=
        l.facts.execute_facts (clock l.facts.commandsHandled) command
      rw [← hfacts] at rest
      refine (ih hsettings' rest).trans ?_
      rw [hfacts, hcalled, List.reduceOption_cons_of_some, List.length_cons]
      dsimp only
      congr 1
      push_cast
      omega

/-- **The call for each command** meets the count of those that came before it. -/
theorem run_of_command
    (h : (surroundings.clockedDispatch clock).Calls settings facts connections calls) {k : Nat}
    {command : Invocation} {run : HandlerRun} (hk : calls[k]? = some (some (command, run))) :
    let handled := facts.commandsHandled + (calls.take k).reduceOption.length
    run = (({ facts with commandsHandled := handled } : ServiceState).execute (clock handled)
      command).1 := by
  induction h generalizing k with
  | nil facts => cases hk
  | skip silent rest ih =>
    cases k with
    | zero => cases hk
    | succ k => exact ih hk
  | @call facts _ _ first _ orders rest ih =>
    cases k with
    | zero =>
      obtain ⟨rfl, rfl⟩ := Prod.mk.inj (Option.some.inj (Option.some.inj hk))
      show _ = (({ facts with commandsHandled := facts.commandsHandled + 0 } : ServiceState).execute
        (clock (facts.commandsHandled + 0)) first).1
      rw [Int.add_zero]
      rfl
    | succ k =>
      have hlater := ih hk
      have hfacts := facts.execute_facts (clock facts.commandsHandled) first
      have hcalled : ((surroundings.clockedDispatch clock).handle facts first).2 =
          { facts with commandsHandled := facts.commandsHandled + 1 } := hfacts
      rw [hcalled] at hlater
      rw [List.take_succ_cons, List.reduceOption_cons_of_some, List.length_cons]
      generalize (List.take k _).reduceOption.length = before at hlater
      have hcount : facts.commandsHandled + ((before + 1 : Nat) : Int) =
          facts.commandsHandled + 1 + before := by omega
      rw [hcount]
      exact hlater

/-- **Only `kill` asks for the end**, whatever the state is that it meets. -/
theorem asksEnd_calls_iff
    (h : (surroundings.clockedDispatch clock).Calls settings facts connections calls) :
    (∃ call, some call ∈ calls ∧ call.2.AsksEnd) ↔
      ∃ call, some call ∈ calls ∧ call.1.command = .str "kill" := by
  have hasks : ∀ call, some call ∈ calls → (call.2.AsksEnd ↔ call.1.command = .str "kill") := by
    intro call hmem
    obtain ⟨k, hk⟩ := List.mem_iff_getElem?.1 hmem
    rw [run_of_command h hk]
    exact ServiceState.execute_asksEnd_iff _ _ _
  exact exists_congr fun call => and_congr_right fun hmem => hasks call hmem

end

/-! ### The end of the run -/

theorem after_token (s : Service) (t : Tenure ServiceState) :
    (s.after t).token = t.loop.listener.token := by
  unfold after
  dsimp only
  split
  · show (t.loop.listener.close _).1.token = _
    rw [Listener.close_fst]
  · rfl

theorem after_commandsHandled (s : Service) (t : Tenure ServiceState) :
    (s.after t).commandsHandled = t.loop.listener.facts.commandsHandled := by
  unfold after
  dsimp only
  split
  · show (t.loop.listener.close _).1.facts.commandsHandled = _
    rw [Listener.close_fst]
  · rfl

/-- **The built-in commands over a whole run.**  Take a service that was launched with any settings
that leave time for closing, and whatever happens while it serves, as long as nobody else retires its
token: clients come in any order and send anything, their connections meet anything, others change the
files.  The loop has seen some of those that came, first come, first served, and its handler was called
as their octets order it:

* the number of commands is that of the calls;
* each call meets the number of those before it; its client, if the transport makes progress, has been
  told what the call says, and the end behind that: now, or as soon as its release gets to run, which
  is waited for at the end;
* the answer to `status` ends with the number of commands, itself included, if the facts can be told:
  the clock tells whole seconds, and no number has too many digits to be written;
* the answer to `kill` is one line, and nobody is seen after it;
* with `kill` seen the token is retired for that reason; without it nothing ends the run, and once
  the loop rests, all that came were seen;
* if every answer is taken, the loop comes to rest, and with `kill` seen the run then is over, for
  that reason. -/
theorem counts_commands_until_kill (surroundings : Surroundings) (clock : Int → Instant)
    (config : Config) (pid : Int) (started : Instant) (machine : Machine)
    (running : ((ofConfig config pid started machine).launch).ended = none)
    (positive : config.closeTimeout.IsPositive) (moves : List Tenure.Move)
    (quiet : Loop.retirements (Tenure.loopMoves moves) = []) :
    let s := (ofConfig config pid started machine).launch
    let d := surroundings.clockedDispatch clock
    let t := s.tenure.run d moves
    let later := s.after t
    let came := Tenure.arrivals moves
    let seen := came.take t.loop.served.length
    ∃ calls, d.Calls s.site.listener.settings ⟨config.programName, pid, started, 0⟩ seen calls ∧
      let killed := ∃ call, some call ∈ calls ∧ call.1.command = .str "kill"
      (seen.length = t.loop.served.length ∧ later.commandsHandled = calls.reduceOption.length) ∧
      (∀ k command run, calls[k]? = some (some (command, run)) →
        let before := (calls.take k).reduceOption.length
        let state : ServiceState := ⟨config.programName, pid, started, before⟩
        run = (state.execute (clock before) command).1 ∧
        (Tenure.SteadyAt moves k → ∃ e, t.ends[k]? = some e ∧
          e.Tells run.spoken t.waited ∧ (e.befall .settle).Tells run.spoken true) ∧
        (command.command = .str "status" →
          ({ state with commandsHandled := before + 1 } : ServiceState).Tellable (clock before) →
            run.spoken.getLast? = some (ServiceState.handledLine (before + 1))) ∧
        (command.command = .str "kill" →
          run.spoken = ([("Killing...\n" : Text)] : List Text) ∧ k + 1 = t.loop.served.length)) ∧
      (killed → later.token.reason = some Listener.commandReason) ∧
      (¬ killed → later.token.reason = none ∧ later.ended = none ∧ (t.loop.AtRest → seen = came)) ∧
      (s.site.listener.GetsThrough d came →
        ∃ turns, let rest := t.run d (List.replicate turns (.loop .turn))
          rest.loop.AtRest ∧
            (killed → (s.after rest).ended = some .finished ∧
              (s.after rest).token.reason = some Listener.commandReason)) := by
  intro s d t later came seen
  obtain ⟨hfacts, htoken, hclose⟩ := launch_fresh running
  have htime : s.site.listener.settings.closeTimeout.IsPositive := hclose ▸ positive
  obtain ⟨calls, hcalls⟩ := d.exists_calls s.site.listener.settings
    ⟨config.programName, pid, started, 0⟩ seen
  refine ⟨calls, hcalls, ?_⟩
  intro killed
  have hkeeps : Tenure.Keeps d s.site.listener (Tenure.SteadyAt moves) came _ t :=
    Tenure.keeps_run d s.site.listener s.site.machine.files moves
  have hserves := hkeeps.serves
  have hminds : Loop.Minds s.site.listener [] t.loop :=
    Tenure.minds_run quiet d s.site.listener s.site.machine.files
  have hruns : d.runs s.site.listener.settings s.site.listener.facts seen =
      calls.map (Option.map Prod.snd) := by
    rw [hfacts]
    exact hcalls.runs_eq
  have hkilled : t.loop.Terminated ↔ killed :=
    (hserves.terminated_iff_calls hruns).trans (asksEnd_calls_iff hcalls)
  have hretired : t.loop.listener.token.retired = true ↔ killed :=
    (hminds.retired_iff htoken).trans hkilled
  have hlater : later.token = t.loop.listener.token := after_token s t
  have hlength : seen.length = t.loop.served.length := Tenure.length_take_served hserves
  refine ⟨⟨hlength, ?count⟩, fun k command run hk => ?call, fun hkill => ?reason,
    fun hgoing => ?going, fun through => ?rest⟩
  case count =>
    have hcore := congrArg Listener.facts hserves.core
    rw [show later.commandsHandled = _ from after_commandsHandled s t,
      show t.loop.listener.facts = (s.site.listener.serveAll d seen).2.facts from hcore,
      serveAll_facts rfl (hfacts ▸ hcalls), hfacts]
    exact Int.zero_add _
  case call =>
    intro before state
    have hlt : k < t.loop.served.length := by
      rw [← hlength, ← hcalls.length_eq]
      exact (List.getElem?_eq_some_iff.1 hk).1
    have hstate : run = (state.execute (clock before) command).1 := by
      have hrun := run_of_command hcalls hk
      rwa [Int.zero_add] at hrun
    have hrun : (d.runs s.site.listener.settings s.site.listener.facts seen)[k]? =
        some (some run) := by
      rw [hruns, List.getElem?_map, hk]
      rfl
    refine ⟨hstate, fun hsteady => ?told, fun hstatus htellable => ?status, fun hkill => ?kill⟩
    case told =>
      have hends : k < t.ends.length := Nat.lt_of_lt_of_le hlt hkeeps.engaged
      have hleft := hkeeps.each k _ (List.getElem?_eq_getElem hends)
      rw [show (d.runs s.site.listener.settings s.site.listener.facts
        (came.take t.loop.served.length))[k]? = _ from hrun] at hleft
      exact ⟨_, List.getElem?_eq_getElem hends, hleft.tells hsteady htime⟩
    case status =>
      rw [hstate]
      exact state.getLast?_spoken_status (clock before) hstatus rfl htellable
    case kill =>
      have hasks : run.AsksEnd := by
        rw [hstate]
        exact (state.execute_asksEnd_iff (clock before) command).2 hkill
      refine ⟨?_, hminds.last k hlt ((hserves.terminates_iff k hlt).2 ⟨_, hrun, hasks⟩)⟩
      rw [hstate]
      exact state.spoken_kill (clock before) hkill
  case reason =>
    rw [hlater]
    exact hminds.reason_of_retired htoken (hretired.2 hkill)
  case going =>
    have hunretired : t.loop.listener.token.retired = false := by
      rw [← Bool.not_eq_true, hretired]
      exact hgoing
    have hstage : t.loop.stage ≠ .ended := by
      intro hended
      rw [hminds.finished hended] at hunretired
      cases hunretired
    refine ⟨?_, ?_, fun hrest => ?_⟩
    · rw [hlater]
      exact Option.not_isSome_iff_eq_none.1 (by simpa [ShutdownToken.retired] using hunretired)
    · show (s.after t).ended = none
      rw [after, if_neg (by simp [hkeeps.unwaited hstage])]
      exact running
    · obtain hended | ⟨hwaiting, hbacklog, _⟩ := hrest
      · exact absurd hended hstage
      · exact hserves.seen_eq_came hwaiting hbacklog
  case rest =>
    obtain ⟨turns, hrest, hwaited⟩ := t.exists_rest d (hserves.getsThrough through)
    refine ⟨turns, hrest, fun hkill => ⟨?_, ?_⟩⟩
    · rw [after, if_pos (hwaited (hretired.2 hkill))]
    · have hlast := Tenure.minds_run (Tenure.quiet_turns quiet turns) d s.site.listener
        s.site.machine.files
      rw [Tenure.run_append] at hlast
      rw [after_token]
      exact hlast.reason_of_retired htoken (Tenure.run_turns_retired d (hretired.2 hkill) turns)

/-- A client that sends a message and stays. -/
def sender (message : Message) : Connection := { delivery := .ofMessages [message] }

/-- Five clients come before the service looks at the first: the state is asked for, then the process
identifier; a vector without a command follows, the end is asked for, and the state again. -/
def fiveClients : List Connection :=
  [sender (.args ["prog", "status"]), sender .idRequest, sender (.args ["prog"]),
    sender (.args ["prog", "kill"]), sender (.args ["prog", "status"])]

/-- The five come, and the loop goes on to its end. -/
def fiveCome : List Tenure.Move :=
  fiveClients.map (.loop <| .connect ·) ++ List.replicate 14 (.loop .turn)

/-- The tenure of the service that they come to. -/
def fiveServed : Tenure ServiceState :=
  launched.tenure.run (Surroundings.bare.clockedDispatch fun _ => .whole 90) fiveCome

/-- The calls for those who are served: one with `status` and one with `kill`. -/
theorem calls_of_fiveClients {calls : List (Option (Invocation × HandlerRun))}
    (h : (Surroundings.bare.clockedDispatch fun _ => .whole 90).Calls
      launched.site.listener.settings launched.site.listener.facts (fiveClients.take 4) calls) :
    ∃ status kill : Invocation × HandlerRun, calls = [some status, none, none, some kill] ∧
      status.1.command = .str "status" ∧ kill.1.command = .str "kill" := by
  let d := Surroundings.bare.clockedDispatch fun _ => .whole 90
  let settings := launched.site.listener.settings
  obtain ⟨status, hstatus, hname⟩ :
      ∃ command ∈ d.command? settings (sender (.args ["prog", "status"])).delivery,
        command.command = .str "status" := by
    decide +kernel
  have hasked : d.command? settings (sender .idRequest).delivery = none := by decide +kernel
  have hbare : d.command? settings (sender (.args ["prog"])).delivery = none := by decide +kernel
  obtain ⟨kill, hkill, hend⟩ :
      ∃ command ∈ d.command? settings (sender (.args ["prog", "kill"])).delivery,
        command.command = .str "kill" := by
    decide +kernel
  have hmap : calls.map (Option.map Prod.fst) = [some status, none, none, some kill] := by
    rw [h.map_fst]
    show [d.command? settings (sender (.args ["prog", "status"])).delivery,
      d.command? settings (sender .idRequest).delivery,
      d.command? settings (sender (.args ["prog"])).delivery,
      d.command? settings (sender (.args ["prog", "kill"])).delivery] = _
    rw [hstatus, hasked, hbare, hkill]
  simp only [List.map_eq_cons_iff, Option.map_eq_some_iff, Option.map_eq_none_iff] at hmap
  obtain ⟨_, _, rfl, ⟨first, rfl, rfl⟩, _, _, rfl, rfl, _, _, rfl, rfl, _, _, rfl,
    ⟨last, rfl, rfl⟩, hnil⟩ := hmap
  rw [List.map_eq_nil_iff.1 hnil]
  exact ⟨first, last, rfl, hname, hend⟩

/-- The state is told once and the end once, both count, and the last client is not served. -/
theorem status_then_kill :
    fiveServed.waited = true ∧ (launched.after fiveServed).commandsHandled = 2 ∧
      (launched.after fiveServed).token.reason = some Listener.commandReason ∧
      (∃ said : List Text, said.getLast? = some (ServiceState.handledLine 1) ∧
        fiveServed.ends[0]?.map (·.transport.taken) =
          some (said.map .packet ++ [.closeSocket])) ∧
      fiveServed.ends[3]?.map (·.transport.taken) = some [.packet "Killing...\n", .closeSocket] := by
  have hsteady : ∀ move ∈ fiveCome, move.Steady := by decide +kernel
  obtain ⟨waited, hserved⟩ : fiveServed.waited = true ∧ fiveServed.loop.served.length = 4 := by
    decide +kernel
  have hcame : Tenure.arrivals fiveCome = fiveClients := by decide +kernel
  obtain ⟨calls, hcalls, ⟨_, hcount⟩, hcall, hreason, _, _⟩ :=
    counts_commands_until_kill .bare (fun _ => .whole 90) .usual 4242 (.whole 0)
      { files := { entries := [] } } (by decide) (by decide) fiveCome rfl
  rw [← launched, ← fiveServed] at hcount hcall hreason
  rw [← launched, ← fiveServed, hserved, hcame] at hcalls
  obtain ⟨status, kill, rfl, hname, hend⟩ := calls_of_fiveClients hcalls
  obtain ⟨_, htold, hlast, _⟩ := hcall 0 status.1 status.2 rfl
  obtain ⟨_, htoldEnd, _, hsaid⟩ := hcall 3 kill.1 kill.2 rfl
  obtain ⟨e, he, htells, _⟩ := htold (Tenure.steadyAt_of_steady hsteady 0)
  obtain ⟨last, hlastEnd, htellsEnd, _⟩ := htoldEnd (Tenure.steadyAt_of_steady hsteady 3)
  have htellable : (⟨"prog", 4242, .whole 0, 1⟩ : ServiceState).Tellable (.whole 90) :=
    ⟨by decide, ⟨90, rfl, by decide⟩, by decide⟩
  refine ⟨waited, hcount, hreason ⟨kill, by simp, hend⟩, ⟨_, hlast hname htellable, ?_⟩, ?_⟩
  · rw [he]
    exact congrArg some (htells.all waited).1
  · rw [hlastEnd, Option.map_some, (htellsEnd.all waited).1, (hsaid hend).1]
    rfl

/-- A service that has no time for closing. -/
def hurriedLaunched : Service :=
  (ofConfig { Config.usual with closeTimeout := .ofInt 0 } 4242 (.whole 0)
    { files := { entries := [] } }).launch

/-- A client asks for the end and stays, and its release runs. -/
def killCome : List Tenure.Move :=
  .loop (.connect (sender (.args ["prog", "kill"]))) ::
    (List.replicate 5 (.loop .turn) ++ [.chance 0 .settle])

/-- **Without time for closing the end is given to nobody**: a client asks for the end and stays, its
release runs, and the run ends. -/
theorem hurried_kill_untold :
    let d := Surroundings.bare.clockedDispatch fun _ => .whole 90
    let t := hurriedLaunched.tenure.run d killCome
    hurriedLaunched.ended = none ∧ Loop.retirements (Tenure.loopMoves killCome) = [] ∧
      Tenure.SteadyAt killCome 0 ∧
      (∃ command, d.Orders hurriedLaunched.site.listener.settings (sender (.args ["prog", "kill"]))
        command ∧ command.command = .str "kill") ∧
      (hurriedLaunched.after t).ended = some .finished ∧
      (hurriedLaunched.after t).token.reason = some Listener.commandReason ∧
      t.ends.map (fun e => (e.pending, e.transport.closes)) = [(0, 1)] ∧
      t.ends.map (·.transport.taken) = [[.packet "Killing...\n"]] := by
  intro d t
  have hsteady : ∀ move ∈ killCome, move.Steady := by decide +kernel
  obtain ⟨command, hcommand, hkill⟩ :
      ∃ command ∈ d.command? hurriedLaunched.site.listener.settings
          (sender (.args ["prog", "kill"])).delivery,
        command.command = .str "kill" := by
    decide +kernel
  exact ⟨by decide +kernel, rfl, Tenure.steadyAt_of_steady hsteady 0,
    ⟨command, (Dispatch.command?_eq_some_iff _ _).1 hcommand, hkill⟩, by decide +kernel⟩

end Service

end ControlChannel
