import ControlChannel.CommandLine
import ControlChannel.Proofs.EchoedWords
import ControlChannel.Proofs.Isolation
import ControlChannel.Proofs.ShownTexts
import ControlChannel.Proofs.ToldFailures

/-!
# Rejections, here and there

An argument vector that is no command is rejected with the same text by the program itself and by a
service that is sent the vector.

* `Grammar.AsksHelp`, `Grammar.status_of_read` — which vectors ask for a help text, and the status
  of their rejections;
* `Surroundings.readCommand_congr` — the text depends on the surroundings only in the columns;
* `Machine.Prepares`, `Machine.call_of_prepares` — a call of the program that comes to its probe;
* `Machine.call_unanswered`, `Machine.call_rejected` — such a call without an instance, and one that
  meets an instance which rejects its vector;
* `Site.reach_uneventful` — a connection that leaves a listener as it is;
* `Service.Listens.visit_probe`, `Service.Listens.visit_rejected` — the connections of such a call;
* `Service.rejections_agree` — **the same text in both places**.
-/

namespace ControlChannel

/-! ### Rejected vectors -/

namespace Grammar

variable {g : Grammar} {columns : Nat} {program : Text} {refusal : Refusal}

/-- An operand names a command and asks for its help text. -/
def NamesHelp (g : Grammar) (operand : List Text) : Prop :=
  ∃ s, g.subcommands.find? (·.name = operand.head?.getD []) = some s ∧
    s.level.fit (operand.drop 1) = .error .help

/-- The arguments ask for a help text, that of the outer level or that of a command. -/
def AsksHelp (g : Grammar) (arguments : List Text) : Prop :=
  g.outer.fit arguments = .error .help ∨
    ∃ outer, g.outer.fit arguments = .ok outer ∧ g.NamesHelp (outer.operand.getD [])

theorem namesHelp_iff {operand : List Text} {s : Subcommand}
    (hfind : g.subcommands.find? (·.name = operand.head?.getD []) = some s) :
    g.NamesHelp operand ↔ s.level.fit (operand.drop 1) = .error .help := by
  unfold NamesHelp
  rw [hfind]
  simp

theorem asksHelp_iff {arguments : List Text} {outer : Matched}
    (houter : g.outer.fit arguments = .ok outer) :
    g.AsksHelp arguments ↔ g.NamesHelp (outer.operand.getD []) := by
  unfold AsksHelp
  rw [houter]
  simp

/-- A command that is read asks for no help text, and one that is rejected has status 0 or 2. -/
theorem readSubcommand_asks (g : Grammar) (columns : Nat) (program : Text) (operand : List Text) :
    match g.readSubcommand columns program operand with
    | .ok _ => ¬ g.NamesHelp operand
    | .error refusal =>
      refusal.status = 0 ∧ g.NamesHelp operand ∨ refusal.status = 2 ∧ ¬ g.NamesHelp operand := by
  unfold readSubcommand
  dsimp only
  cases hfind : g.subcommands.find? (·.name = operand.head?.getD []) with
  | none =>
    refine .inr ⟨rfl, fun ⟨s, hsome, _⟩ => ?_⟩
    rw [hfind] at hsome
    cases hsome
  | some s =>
    dsimp only
    rw [namesHelp_iff hfind]
    cases s.level.fit (operand.drop 1) with
    | ok m => exact nofun
    | error stop =>
      cases stop with
      | help => exact .inl ⟨rfl, rfl⟩
      | fault fault => exact .inr ⟨rfl, nofun⟩

/-- **A rejection has status 0 if a help text was asked for, and status 2 if not.** -/
theorem status_of_read {arguments : List Text}
    (h : g.read columns program arguments = .error refusal) :
    refusal.status = 0 ∧ g.AsksHelp arguments ∨ refusal.status = 2 ∧ ¬ g.AsksHelp arguments := by
  unfold read at h
  cases houter : g.outer.fit arguments with
  | error stop =>
    rw [houter] at h
    cases stop with
    | help =>
      cases h
      exact .inl ⟨rfl, .inl houter⟩
    | fault fault =>
      cases h
      refine .inr ⟨rfl, ?_⟩
      unfold AsksHelp
      rw [houter]
      simp
  | ok outer =>
    rw [houter] at h
    dsimp only at h
    have hasks := g.readSubcommand_asks columns program (outer.operand.getD [])
    rw [asksHelp_iff houter]
    cases hread : g.readSubcommand columns program (outer.operand.getD []) with
    | error other =>
      rw [hread] at h hasks
      cases h
      exact hasks
    | ok found =>
      rw [hread] at h hasks
      dsimp only at h hasks
      split_ifs at h
      cases h
      exact .inr ⟨rfl, hasks⟩

end Grammar

/-- What a vector asks for depends on the surroundings only in the columns of the terminal. -/
theorem Surroundings.readCommand_congr {s t : Surroundings} {argv : List Text}
    (nonempty : argv ≠ []) (columns : s.columns = t.columns) :
    s.readCommand argv = t.readCommand argv := by
  cases argv with
  | nil => exact absurd rfl nonempty
  | cons argv0 arguments =>
    unfold readCommand
    rw [columns]

theorem Surroundings.status_of_readCommand {s : Surroundings} {argv : List Text}
    {refusal : Refusal} (h : s.readCommand argv = .error refusal) :
    refusal.status = 0 ∧ controlGrammar.AsksHelp argv.tail ∨
      refusal.status = 2 ∧ ¬ controlGrammar.AsksHelp argv.tail := by
  rw [← List.drop_one]
  exact Grammar.status_of_read h

/-! ### A call of the program -/

/-- Settings that are loaded leave time to connect. -/
theorem Surroundings.load_allowsTime [EnvFile.Reader] {s : Surroundings} {envFile? name? : Option Text}
    {config : Config} {environment : Environment} {notices : List Notice}
    (h : s.load envFile? name? = .ok (config, environment, notices)) :
    config.connectTimeout.isAtMostZero = false := by
  exact (configure_allowsTime (load_eq_ok_iff.1 h).2).2.1

/-- What surrounds a call once the file of variables is read. -/
def CallSetting.reached (setting : CallSetting) (m : Machine) (environment : Environment) :
    CallSetting :=
  { setting with surroundings := { setting.surroundings with files := m.files, environment } }

namespace Machine

/-- What is mapped to an ended call has an outcome. -/
theorem exists_of_map_ended {result : Except ProgramFault Outcome} {call : Call}
    (h : result.map .ended = .ok call) :
    ∃ outcome, result = .ok outcome ∧ call = .ended outcome := by
  cases result with
  | error fault => cases h
  | ok outcome =>
    cases h
    exact ⟨outcome, rfl, rfl⟩

section

variable [ConsoleLibrary] {m after : Machine} {console : ConsoleLibrary.Opened}
  {environment : Environment}

/-- A call that tells a failure ends with status 1, and with the machine and the first stream as they
were. -/
theorem complain_ends {screen : Screen} {error : ControlError} {outcome : Outcome}
    (h : m.complain screen console environment error = .ok outcome) :
    outcome.machine = m ∧ outcome.exit = .status 1 ∧ outcome.screen.out = screen.out := by
  unfold complain Screen.tell at h
  generalize ConsoleLibrary.written console environment _ = written at h
  cases written with
  | error fault => cases h
  | ok text =>
    cases h
    exact ⟨rfl, rfl, rfl⟩

variable [EnvFile.Reader]

/-- A call of the program comes to its probe: its console opens, its settings can be had, and the
log has a level of that name. -/
structure Prepares (m : Machine) (setting : CallSetting) (console : ConsoleLibrary.Opened)
    (config : Config) (environment : Environment) : Prop where
  opens : ConsoleLibrary.opened setting.surroundings.environment = .ok console
  loads : ∃ notices, Surroundings.load { setting.surroundings with files := m.files } (some ".env")
    none = .ok (config, environment, notices)
  logs : ∃ level, levelOf config.logLevel = .ok level

variable {setting : CallSetting} {config : Config}

/-- A call that comes to its probe, in terms of what the probe finds. -/
theorem call_eq (prepares : m.Prepares setting console config environment) (argv : List Text) :
    m.call setting argv =
      match m.probe config.socketPath.toText (.real config.connectTimeout) with
      | (.error (.control error), after) =>
        (after.complain setting.screen console environment error).map .ended
      | (.error failure, _) => .error (.failure failure)
      | (.ok (some _), after) =>
        (after.send setting.screen environment config.socketPath.toText argv).map .ended
      | (.ok none, after) =>
        after.callAlone (setting.reached m environment) console config argv := by
  obtain ⟨notices, hload⟩ := prepares.loads
  obtain ⟨level, hlevel⟩ := prepares.logs
  unfold call
  dsimp only
  rw [prepares.opens, hload]
  simp only [hlevel, Except.mapError, bind, Except.bind]
  rfl

/-- What a call makes of its probe: it tells a failure, sends its vector to whoever answers, and
goes on alone if no one is there. -/
theorem call_of_prepares (prepares : m.Prepares setting console config environment)
    {result : Except Failure (Option Pid)}
    (hprobe : m.probe config.socketPath.toText (.real config.connectTimeout) = (result, after))
    (argv : List Text) :
    (∀ error, result = .error (.control error) →
      m.call setting argv
        = (after.complain setting.screen console environment error).map .ended) ∧
    (∀ pid, result = .ok (some pid) →
      m.call setting argv
        = (after.send setting.screen environment config.socketPath.toText argv).map .ended) ∧
    (result = .ok none →
      m.call setting argv
        = after.callAlone (setting.reached m environment) console config argv) := by
  rw [call_eq prepares, hprobe]
  refine ⟨?fails, ?answers, ?alone⟩
  case fails =>
    rintro error rfl
    rfl
  case answers =>
    rintro pid rfl
    rfl
  case alone =>
    rintro rfl
    rfl

/-- A probe that fails ends a call whatever its vector is, with status 1 and nothing on the first
stream. -/
theorem call_of_failed_probe (prepares : m.Prepares setting console config environment)
    {error : ControlError}
    (hprobe : m.probe config.socketPath.toText (.real config.connectTimeout)
      = (.error (.control error), after)) {argv : List Text} {outcome : Outcome}
    (h : m.call setting argv = .ok (.ended outcome)) :
    outcome.exit = .status 1 ∧ outcome.screen.out = [] := by
  rw [(call_of_prepares prepares hprobe argv).1 error rfl] at h
  obtain ⟨_, htold, ⟨⟩⟩ := exists_of_map_ended h
  exact (complain_ends htold).2

/-- **Without an instance, a vector that is rejected ends the call with its text**: a help text on
the first stream with status 0 once the stream has taken it, a usage fault on the second one with
status 2. -/
theorem call_unanswered (prepares : m.Prepares setting console config environment)
    (absent : m.probe config.socketPath.toText (.real config.connectTimeout) = (.ok none, after))
    {surroundings : Surroundings} {argv : List Text} (nonempty : argv ≠ [])
    (columns : (setting.reached m environment).surroundings.columns = surroundings.columns)
    {refusal : Refusal} (rejected : surroundings.readCommand argv = .error refusal) :
    (controlGrammar.AsksHelp argv.tail → m.call setting argv
      = (setting.screen.write refusal.text).map fun screen =>
          .ended { exit := .status 0, screen, machine := after }) ∧
    (¬ controlGrammar.AsksHelp argv.tail → m.call setting argv = .ok
      (.ended
        { exit := .status 2
          screen := { charset := setting.charset, err := refusal.text }
          machine := after })) := by
  rw [(call_of_prepares prepares absent argv).2.2 rfl, callAlone,
    Surroundings.readCommand_congr nonempty columns, rejected]
  dsimp only [Screen.refuse]
  obtain ⟨hstatus, hasks⟩ | ⟨hstatus, hasks⟩ := Surroundings.status_of_readCommand rejected
  · rw [hstatus, if_pos rfl]
    refine ⟨fun _ => ?_, fun hnone => absurd hasks hnone⟩
    show (setting.screen.write refusal.text).bind _ = _
    cases setting.screen.write refusal.text <;> rfl
  · rw [hstatus, if_neg (by decide)]
    exact ⟨fun hsome => absurd hsome hasks, fun _ => rfl⟩

end

end Machine

/-! ### A service that rejects -/

/-- A client that gets one packet and then the end of the connection shows the text, and fails
because the stream was not closed. -/
theorem Client.relay_packet (path : Text) {text : Text} {frame : Bytes}
    (h : Frame.encode (.packet text) = .ok frame) :
    relay path { bytes := frame }
      = { shown := [text], ending := .failed (.control .closedByPeer) } := by
  have hend : relay path {} = { shown := [], ending := .failed (.control .closedByPeer) } := by
    rw [relay_eq]
    rfl
  rw [← List.append_nil frame, relay_eq, Delivery.receive_encode h]
  dsimp only
  rw [hend]

namespace Dispatch

/-- A rejection does not end the service. -/
theorem rejected_terminates (client text : Text) : (rejected client text).terminates = false := by
  unfold rejected
  split <;> rfl

/-- Neither does a reply to a request for the process id. -/
theorem reply_terminates (settings : ServeSettings) (client : Text) :
    (reply settings client .idRequest).terminates = false := by
  unfold reply
  dsimp only
  split <;> rfl

end Dispatch

namespace Site

variable {Facts Command : Type}

/-- A site that has taken some more connections, and is as it was otherwise. -/
def met (s : Site Facts) (connections : Nat) : Site Facts :=
  { s with listener := { s.listener with connections := s.listener.connections + connections } }

theorem met_met (s : Site Facts) (n k : Nat) : (s.met n).met k = s.met (n + k) := by
  rw [met, met, met]
  dsimp only
  rw [Nat.add_assoc]

/-- **A connection that changes no facts and does not end the service** leaves it as it is, apart
from the count of connections. -/
theorem reach_uneventful (d : Dispatch Facts Command) {s : Site Facts} (reaches : s.reaches = true)
    (unretired : s.listener.token.retired = false) {delivery : Delivery} {served : Served}
    (serves : d.serve s.listener.settings s.listener.nextClient s.listener.facts delivery
      = (served, s.listener.facts)) (stays : served.terminates = false) :
    s.reach d delivery = (.ok served.delivery, s.listener.trace d delivery, s.met 1) := by
  have haccept : s.listener.accept d delivery = (served, (s.met 1).listener) := by
    rw [Listener.accept, serves]
    dsimp only
    rw [stays]
    rfl
  have hsettle : (s.met 1).settle = s.met 1 := by
    rw [settle, show (s.met 1).listener.token.retired = false from unretired,
      if_neg Bool.false_ne_true]
  rw [reach, if_pos reaches, haccept]
  show (_, _, (s.met 1).settle) = _
  rw [hsettle]

end Site

namespace Service

/-- A service that runs, and that clients of a path find there: it has a process id, and leaves time
for a request. -/
structure Listens (s : Service) (path : Text) (pid : Pid) : Prop where
  reaches : s.site.reaches = true
  address : s.site.address = path
  unretired : s.token.retired = false
  identity : s.site.listener.settings.pid = pid.val
  time : s.site.listener.settings.requestTimeout.isAtMostZero = false

variable {s : Service} {path : Text} {pid : Pid}

/-- More connections that leave a service as it is do not keep its clients from finding it. -/
theorem Listens.met (h : s.Listens path pid) (n : Nat) :
    Listens { s with site := s.site.met n } path pid where
  reaches := h.reaches
  address := h.address
  unretired := h.unretired
  identity := h.identity
  time := h.time

/-- A visit that leaves the site as it is, apart from the count of connections, does so with the
service. -/
theorem Listens.visit_uneventful (h : s.Listens path pid) {surroundings : Surroundings}
    {now patience : Instant} {v : Visit} {finding : Finding} {trace : Trace} {n : Nat}
    (hvisit : s.site.visit (surroundings.controlDispatch now) patience v
      = (finding, trace, s.site.met n)) :
    s.visit surroundings now patience v = (finding, trace, { s with site := s.site.met n }) := by
  have hfinish : finish { s with site := s.site.met n } = { s with site := s.site.met n } := by
    rw [finish, (h.met n).unretired, Bool.and_false]
    rfl
  rw [visit, hvisit]
  exact congrArg (finding, trace, ·) hfinish

/-- **A service answers a probe with its process id** and is as it was, apart from the count of
connections. -/
theorem Listens.visit_probe (h : s.Listens path pid) (surroundings : Surroundings)
    (now timeout : Instant) (htime : timeout.isAtMostZero = false)
    (hnumber : timeout.isNotANumber = false) :
    ∃ (answer : Delivery) (trace : Trace),
      s.site.reach (surroundings.controlDispatch now) (.ofMessages (Client.probeRequest timeout))
        = (.ok answer, trace, s.site.met 1) ∧
      Client.probe path timeout (.ok answer) = .ok (some pid) ∧
      s.visit surroundings now timeout .probe
        = (.pid (.ok (some pid)), trace, { s with site := s.site.met 1 }) := by
  let d := surroundings.controlDispatch now
  let l := s.site.listener
  have hreach := Site.reach_uneventful d h.reaches h.unretired
    (Dispatch.serve_of_hears d _ _ _ (Site.hears_probeRequest h.time hnumber))
    (Dispatch.reply_terminates l.settings l.nextClient)
  have hprobe : Client.probe path timeout
      (.ok (Dispatch.reply l.settings l.nextClient .idRequest).close.delivery)
        = .ok (some pid) := by
    have hfound := Site.probe_of_reaches d h.reaches h.identity h.time htime hnumber
    rw [Site.probe, htime, if_neg Bool.false_ne_true, hreach] at hfound
    dsimp only at hfound
    rwa [(h.met 1).address] at hfound
  refine ⟨_, _, hreach, hprobe, h.visit_uneventful ?_⟩
  unfold Site.visit
  rw [Site.probe, htime, if_neg Bool.false_ne_true, hreach]
  dsimp only
  rw [(h.met 1).address, hprobe]

/-- **A service tells the client of a vector that it rejects why**, and is as it was, apart from the
count of connections.  The client shows the text, and fails because the stream was not closed. -/
theorem Listens.visit_rejected (h : s.Listens path pid) (surroundings : Surroundings)
    (now patience : Instant) {argv : List Text} {request packet : Bytes} {refusal : Refusal}
    (hrequest : Frame.encode (.args argv) = .ok request)
    (rejected : surroundings.readCommand argv = .error refusal)
    (hpacket : Frame.encode (.packet refusal.text) = .ok packet) :
    let relay : Relay := { shown := [refusal.text], ending := .failed (.control .closedByPeer) }
    ∃ (answer : Delivery) (trace : Trace),
      s.site.reach (surroundings.controlDispatch now) (.ofMessages (Client.forwardRequest argv))
        = (.ok answer, trace, s.site.met 1) ∧
      Client.forward path argv (.ok answer) = relay ∧
      s.visit surroundings now patience (.forward argv)
        = (.relay relay, trace, { s with site := s.site.met 1 }) := by
  intro relay
  let d := surroundings.controlDispatch now
  let l := s.site.listener
  let served := Dispatch.rejected l.nextClient refusal.text
  have hread : d.read argv = .error refusal.text := by
    show (surroundings.readCommand argv).mapError Refusal.text = _
    rw [rejected]
    rfl
  have hreach := Site.reach_uneventful d h.reaches h.unretired
    (Dispatch.serve_refused d _ _ (Site.hears_forwardRequest h.time hrequest) hread)
    (Dispatch.rejected_terminates l.nextClient refusal.text)
  have hdelivery : served.delivery = { bytes := packet } := by
    have htransport : served.transport = { taken := [.packet refusal.text], closes := 1 } := by
      rw [Dispatch.rejected_transport, Json.spoken?_eq_some_iff.2 ⟨rfl, packet, hpacket⟩]
      rfl
    rw [Served.delivery_congr (k := { transport := _ }) htransport]
    show Delivery.mk (Frame.octets [.packet refusal.text]) _ = _
    rw [Frame.octets_cons hpacket]
    exact congrArg (Delivery.mk · .hangsUp) (List.append_nil packet)
  have hforward : Client.forward path argv (.ok served.delivery) = relay := by
    rw [Client.forward_of_taken hrequest _ rfl, hdelivery]
    exact Client.relay_packet path hpacket
  refine ⟨_, _, hreach, hforward, h.visit_uneventful ?_⟩
  unfold Site.visit
  dsimp only
  rw [Site.forward, hreach]
  dsimp only
  rw [(h.met 1).address, hforward]

end Service

namespace Machine

variable [ConsoleLibrary] {m probed after : Machine} {opened : ConsoleLibrary.Opened}
  {environment : Environment}

/-- What was shown stays shown when forwarding fails, and the failure is told. -/
theorem send_of_failed (screen : Screen)
    (opens : ConsoleLibrary.opened environment = .ok opened)
    {path : Text} {argv shown : List Text} {error : ControlError}
    (hforward : m.forward path argv = ({ shown, ending := .failed (.control error) }, after)) :
    m.send screen environment path argv
      = (screen.writeAll shown).bind fun screen =>
          after.complain screen opened environment error := by
  rw [send, hforward]
  dsimp only
  rw [opens]
  rfl

/-- **A call that meets an instance which rejects its vector** shows the text on the first stream,
tells on the second one that the connection was closed, and ends with status 1, once the first stream
has taken the text. -/
theorem call_rejected [EnvFile.Reader] {setting : CallSetting} {console : ConsoleLibrary.Opened}
    {config : Config} (prepares : m.Prepares setting console config environment)
    (opens : ConsoleLibrary.opened environment = .ok opened)
    (tells : ConsoleLibrary.Tells opened environment) {pid : Pid} {text : Text} {argv : List Text}
    (hprobe : m.probe config.socketPath.toText (.real config.connectTimeout)
      = (.ok (some pid), probed))
    (hforward : probed.forward config.socketPath.toText argv
      = ({ shown := [text], ending := .failed (.control .closedByPeer) }, after)) :
    ∃ told, m.call setting argv = (setting.screen.write text).map fun screen =>
      .ended { exit := .status 1, screen := { screen with err := told }, machine := after } := by
  obtain ⟨told, htold⟩ := tells ControlError.closedByPeer.message
  refine ⟨told, ?_⟩
  rw [(call_of_prepares prepares hprobe argv).2.1 pid rfl, send_of_failed _ opens hforward,
    Screen.writeAll_singleton]
  cases hwrite : setting.screen.write text with
  | error fault => rfl
  | ok screen =>
    obtain ⟨-, rfl⟩ := Screen.write_eq_ok_iff.1 hwrite
    show (complain _ _ _ _ _).map _ = _
    rw [complain, Screen.tell, htold]
    rfl

end Machine

/-! ### The same text in both places -/

namespace Service

/-- **A vector that is rejected is rejected with the same text, whether or not an instance runs.**
Take a vector that can be sent, that the program rejects, and whose rejection can be sent, and a
call of the program that comes to its probe, with as many columns.

* If the probe finds no one, the call shows the text: if it asks for help, on the first stream, with
  status 0 once the stream has taken it, and if not, on the second one with status 2.
* If a service runs there, and a console still opens that tells every failure, the call shows just
  this text on the first stream, and once the stream has taken it, tells on the second one that the
  connection was closed, and ends with status 1.  The service has handled no more commands by then,
  nothing happened to its token, and it answers the next probe.
* A first stream in UTF-8 takes the text. -/
theorem rejections_agree [ConsoleLibrary] [EnvFile.Reader] (surroundings : Surroundings)
    {argv : List Text} (nonempty : argv ≠ []) {request packet : Bytes} {refusal : Refusal}
    (hrequest : Frame.encode (.args argv) = .ok request)
    (rejected : surroundings.readCommand argv = .error refusal)
    (hpacket : Frame.encode (.packet refusal.text) = .ok packet)
    {m : Machine} {setting : CallSetting} {console : ConsoleLibrary.Opened} {config : Config}
    {environment : Environment} (prepares : m.Prepares setting console config environment)
    (columns : (setting.reached m environment).surroundings.columns = surroundings.columns) :
    let path := config.socketPath.toText
    let timeout : Instant := .real config.connectTimeout
    (∀ after, m.probe path timeout = (.ok none, after) →
      (controlGrammar.AsksHelp argv.tail → m.call setting argv
        = (setting.screen.write refusal.text).map fun screen =>
            .ended { exit := .status 0, screen, machine := after }) ∧
      (¬ controlGrammar.AsksHelp argv.tail → m.call setting argv = .ok
        (.ended
          { exit := .status 2
            screen := { charset := setting.charset, err := refusal.text }
            machine := after }))) ∧
    (∀ (s : Service) (pid : Pid) (now later : Instant) (opened : ConsoleLibrary.Opened),
      s.Listens path pid → timeout.isNotANumber = false →
      ConsoleLibrary.opened environment = .ok opened → ConsoleLibrary.Tells opened environment →
      let probed := (s.visit surroundings now timeout .probe).2.2
      let forwarded := (probed.visit surroundings later timeout (.forward argv)).2.2
      (∀ answered after,
        m.converse path (Client.probeRequest timeout)
          = ((s.site.reach (surroundings.controlDispatch now)
              (.ofMessages (Client.probeRequest timeout))).1, answered) →
        answered.converse path (Client.forwardRequest argv)
          = ((probed.site.reach (surroundings.controlDispatch later)
              (.ofMessages (Client.forwardRequest argv))).1, after) →
        ∃ told, m.call setting argv = (setting.screen.write refusal.text).map fun screen =>
          .ended { exit := .status 1, screen := { screen with err := told }, machine := after }) ∧
      forwarded.commandsHandled = s.commandsHandled ∧ forwarded.token = s.token ∧
      forwarded = { s with site := s.site.met 2 } ∧
      ∀ moment, (forwarded.visit surroundings moment timeout .probe).1 = .pid (.ok (some pid))) ∧
    Charset.utf8.Takes refusal.text := by
  intro path timeout
  refine ⟨fun after absent => Machine.call_unanswered prepares absent nonempty columns rejected, ?_,
    Charset.takes_of_encode hpacket⟩
  intro s pid now later opened listens hnumber opens tells probed forwarded
  obtain ⟨notices, hload⟩ := prepares.loads
  have htime : timeout.isAtMostZero = false := Surroundings.load_allowsTime hload
  obtain ⟨answer, trace, hreach, hprobe, hvisit⟩ :=
    listens.visit_probe surroundings now timeout htime hnumber
  have hprobed : probed = { s with site := s.site.met 1 } := congrArg (·.2.2) hvisit
  obtain ⟨answer', trace', hreach', hforward, hvisit'⟩ :=
    (listens.met 1).visit_rejected surroundings later timeout hrequest rejected hpacket
  have hforwarded : forwarded = { s with site := s.site.met 2 } := by
    show (probed.visit surroundings later timeout (.forward argv)).2.2 = _
    rw [hprobed, hvisit', Site.met_met]
  refine ⟨?call, ?counts, ?token, hforwarded, ?answers⟩
  case call =>
    intro answered after hasked hsent
    rw [hreach] at hasked
    rw [hprobed, hreach'] at hsent
    have hfound : m.probe path timeout = (.ok (some pid), answered) := by
      rw [Machine.probe, hasked, htime]
      exact congrArg (·, answered) hprobe
    have hrelayed : answered.forward path argv
        = ({ shown := [refusal.text], ending := .failed (.control .closedByPeer) }, after) := by
      rw [Machine.forward, hsent]
      exact congrArg (·, after) hforward
    exact Machine.call_rejected prepares opens tells hfound hrelayed
  case counts =>
    rw [hforwarded]
    rfl
  case token =>
    rw [hforwarded]
    rfl
  case answers =>
    intro moment
    obtain ⟨_, _, _, _, hlater⟩ :=
      (listens.met 2).visit_probe surroundings moment timeout htime hnumber
    rw [hforwarded, hlater]

end Service

/-- A call of the program by the name `prog` with these variables, where no file lies and the first
stream is in UTF-8. -/
def CallSetting.withVariables (environment : Environment) : CallSetting where
  surroundings := { Surroundings.bare with environment }
  pid := 1
  now := .whole 7
  side := .service
  charset := .utf8

/-- A console where no variable tells of a terminal or of its measures. -/
def Console.plain : Console := { width := none, height := none, terminal := none }

/-- The rejection of a command that there is none of. -/
def Refusal.bogus : Refusal where
  text := "usage: prog [-h] COMMAND ...\n"
    ++ "prog: error: argument COMMAND: invalid choice: 'bogus' "
    ++ "(choose from 'run', 'status', 'ping', 'echo', 'kill')\n"
  status := 2

/-- The variables that name the files of the usual settings. -/
def Environment.usual : Environment :=
  [("HYPERMANGLE_SOCKET", "ctl.sock"), ("HYPERMANGLE_LOG_FILE", "prog.log")]

/-- A process that listens alone on a machine delivers its next reply. -/
theorem Machine.converse_waiting {files : FileTree} {address : Text} {inode : Nat}
    (listens : files.socketAt address = .ok inode) (reply : Delivery) (replies : List Reply)
    (received sent : List Message) :
    Machine.converse { files, peers := [{ inode, replies := reply :: replies, received }] } address
        sent
      = (.ok reply,
          { files, peers := [{ inode, replies, received := received ++ sent }] }) := by
  unfold Machine.converse
  rw [listens]
  simp [Intake.passed]

/-- Where no file of variables lies, a call with these variables comes to its probe. -/
theorem Machine.prepares_usual {m : Machine}
    (absent : m.files.find? (Path.ofText ".env") = .ok none) :
    m.Prepares (.withVariables .usual) Console.plain .usual .usual where
  opens := rfl
  loads := by
    have hfile : Surroundings.withFile
        { (CallSetting.withVariables .usual).surroundings with files := m.files } (some ".env")
        = .ok .usual := by
      unfold Surroundings.withFile
      rw [Option.filter_some_pos (by decide)]
      dsimp only
      rw [absent]
      rfl
    unfold Surroundings.load
    rw [hfile]
    exact ⟨[], rfl⟩
  logs := ⟨20, rfl⟩

/-- The rejection has a frame. -/
theorem Refusal.encode_bogus : ∃ packet, Frame.encode (.packet bogus.text) = .ok packet := by
  have hspoken : (Json.str bogus.text).spoken?.isSome = true := by decide +kernel
  obtain ⟨said, hsaid⟩ := Option.isSome_iff_exists.1 hspoken
  obtain ⟨htext, hpacket⟩ := Json.spoken?_eq_some_iff.1 hsaid
  rwa [Json.str.inj htext]

/-- It is the rejection wherever a terminal has as many columns as when nothing tells. -/
theorem Surroundings.readCommand_bogus {s : Surroundings}
    (columns : s.columns = defaultColumns) :
    s.readCommand ["prog", "bogus"] = .error .bogus := by
  have hfit : controlGrammar.outer.fit ["bogus"] = .ok { operand := some ["bogus"] } := by
    decide +kernel
  have hfind : controlGrammar.subcommands.find? (·.name = ("bogus" : Text)) = none := by
    rw [List.find?_eq_none]
    decide +kernel
  have hfault : Grammar.faultAt defaultColumns (programName "prog") controlGrammar.outer
      (.invalidChoice "COMMAND" "bogus" (controlGrammar.subcommands.map (·.name))) = .bogus := by
    decide +kernel
  have hread : controlGrammar.readSubcommand defaultColumns (programName "prog") ["bogus"]
      = .error .bogus := by
    unfold Grammar.readSubcommand
    dsimp only [List.head?_cons, Option.getD_some]
    rw [hfind]
    exact congrArg Except.error hfault
  unfold readCommand
  dsimp only
  rw [columns, List.drop_one, List.tail_cons, Grammar.read, hfit]
  dsimp only
  rw [Option.getD_some, hread]

/-- A command that there is none of is rejected by a call that finds no one, and with the same text
by a service that was launched. -/
theorem Service.bogus_rejected :
    let argv : List Text := ["prog", "bogus"]
    let setting : CallSetting := .withVariables .usual
    let alone : Machine := { files := { entries := [] } }
    alone.call setting argv = .ok (.ended
      { exit := .status 2
        screen := { charset := .utf8, err := Refusal.bogus.text }
        machine := alone }) ∧
    ∃ (m after : Machine) (told : Text), m.call setting argv = .ok (.ended
      { exit := .status 1
        screen := { charset := .utf8, out := Refusal.bogus.text, err := told }
        machine := after }) := by
  intro argv setting alone
  have hrequest : Frame.encode (.args argv) = .ok ((Frame.encode (.args argv)).toOption.getD []) :=
    rfl
  obtain ⟨packet, hpacket⟩ := Refusal.encode_bogus
  have rejected : Surroundings.bare.readCommand argv = .error .bogus :=
    Surroundings.readCommand_bogus rfl
  refine ⟨?alone, ?met⟩
  case alone =>
    have hasks : ¬ controlGrammar.AsksHelp argv.tail := by
      obtain ⟨hstatus, _⟩ | ⟨_, hasks⟩ := Surroundings.status_of_readCommand rejected
      · cases hstatus
      · exact hasks
    exact ((rejections_agree .bare (List.cons_ne_nil _ _) hrequest rejected hpacket
      (Machine.prepares_usual (m := alone) rfl) rfl).1 alone rfl).2 hasks
  case met =>
    let timeout : Instant := .real Config.usual.connectTimeout
    let files := launched.site.machine.files
    have listens : launched.Listens "ctl.sock" 4242 := by
      refine ⟨?_, ?_, ?_, ?_, ?_⟩ <;> decide
    have hsocket : files.socketAt "ctl.sock" = .ok 0 := by decide
    obtain ⟨answer, _, hreach, _, hvisit⟩ :=
      listens.visit_probe .bare (.whole 7) timeout rfl rfl
    obtain ⟨rejection, _, hreach', _, _⟩ :=
      (listens.met 1).visit_rejected .bare (.whole 7) timeout hrequest rejected hpacket
    let m : Machine := { files, peers := [{ inode := 0, replies := [answer, rejection] }] }
    obtain ⟨-, hmet, htakes⟩ := rejections_agree .bare (List.cons_ne_nil _ _) hrequest rejected
      hpacket (Machine.prepares_usual (m := m) rfl) rfl
    obtain ⟨told, htold⟩ := (hmet launched 4242 (.whole 7) (.whole 7) _ listens rfl rfl
      (Console.plain.tells rfl)).1 _ _
      (by rw [hreach]; exact Machine.converse_waiting hsocket answer [rejection] [] _)
      (by rw [hvisit, hreach']; exact Machine.converse_waiting hsocket rejection [] _ _)
    rw [Screen.write_of_takes htakes] at htold
    exact ⟨m, _, told, htold⟩

namespace Environment

/-- The usual variables, with an address that is too long for a socket. -/
def distant : Environment :=
  [("HYPERMANGLE_SOCKET", List.replicate 108 'a'), ("HYPERMANGLE_LOG_FILE", "prog.log")]

/-- The usual variables, with a time that is not a number. -/
def timeless : Environment := ("HYPERMANGLE_CONNECT_TIMEOUT", "nan") :: usual

/-- Columns that are taken for a number, and are none. -/
def powered : Environment := [("COLUMNS", [0xB2])]

end Environment

/-- A command that there is none of is not rejected by a call that does not come so far: because its
address is too long, its columns cannot be read, or its probe gets no time. -/
theorem Machine.bogus_unheard :
    let argv : List Text := ["prog", "bogus"]
    let alone : Machine := { files := { entries := [] } }
    (∃ request, Frame.encode (.args argv) = .ok request) ∧
    (∃ packet, Frame.encode (.packet Refusal.bogus.text) = .ok packet) ∧
    (∀ e ∈ [Environment.distant, .powered, .timeless],
      (CallSetting.withVariables e).surroundings.readCommand argv = .error .bogus) ∧
    (∀ outcome, alone.call (.withVariables .distant) argv = .ok (.ended outcome) →
      outcome.exit ≠ .status 2) ∧
    (∃ fault, alone.call (.withVariables .powered) argv = .error (.console fault)) ∧
    ∀ (reply : Delivery) (outcome : Outcome),
      ({ files := Service.launched.site.machine.files
         peers := [{ inode := 0, replies := [reply] }] } : Machine).call
          (.withVariables .timeless) argv = .ok (.ended outcome) →
        outcome.screen.out ≠ Refusal.bogus.text := by
  intro argv alone
  refine ⟨⟨_, rfl⟩, Refusal.encode_bogus, ?rejected, ?distant, ?powered, ?timeless⟩
  case rejected =>
    have hcolumns : ∀ e ∈ [Environment.distant, .powered, .timeless],
        (CallSetting.withVariables e).surroundings.columns = defaultColumns := by decide
    exact fun e he => Surroundings.readCommand_bogus (hcolumns e he)
  case distant =>
    intro outcome h
    have prepares : alone.Prepares (.withVariables .distant)
        Console.plain
        { Config.usual with socketPath := Path.ofText (List.replicate 108 'a') } .distant :=
      ⟨rfl, ⟨[], rfl⟩, ⟨20, rfl⟩⟩
    rw [(call_of_failed_probe prepares rfl h).1]
    decide
  case powered => exact ⟨_, rfl⟩
  case timeless =>
    intro reply outcome h
    have prepares : Prepares { files := Service.launched.site.machine.files
                               peers := [{ inode := 0, replies := [reply] }] }
        (.withVariables .timeless) Console.plain
        { Config.usual with connectTimeout := .nan } .timeless :=
      ⟨rfl, ⟨[], rfl⟩, ⟨20, rfl⟩⟩
    have hsays : Refusal.bogus.text.isEmpty = false := by decide +kernel
    intro hout
    rw [← hout, (call_of_failed_probe prepares rfl h).2] at hsays
    cases hsays

end ControlChannel
