import ControlChannel.Proofs.FailedStart
import ControlChannel.Proofs.Rejections

/-!
# Which failures a call reports

A call of the program can fail at its probe, at forwarding its vector, and at starting its service.
It handles the failures of the control channel that the first two meet, and of a start only one:
that another instance runs.  A start meets others, above all where something lies that is no socket.

* `Setback` — where a call fails, with `Setback.IsHandled`;
* `Machine.setback?`, `Machine.IsStranded` — where a call fails, and what else keeps one from its
  end;
* `Setback.Becomes`, `Machine.call_becomes` — what becomes of a call that fails, with one lemma for
  each function that handles failures;
* `Machine.call_settles` — a call that fails at nothing ends with a status, or is stranded;
* `Machine.call_reports_exactly` — **which calls report, and what escapes the others**;
* `Machine.occupied_run_escapes` — a file at the path is enough.
-/

namespace ControlChannel

/-- Where a call fails: at its probe, at forwarding its vector, or at starting its service. -/
inductive Setback
  | unprobed (failure : Failure)
  | unsent (failure : Failure)
  | unstarted (failure : Failure)

namespace Setback

/-- What goes wrong. -/
def failure : Setback → Failure
  | unprobed failure => failure
  | unsent failure => failure
  | unstarted failure => failure

/-- Whether a call handles what goes wrong: failures of the control channel, but of those of a start
only that another instance runs. -/
def IsHandled : Setback → Prop
  | unprobed failure => ∃ error, failure = .control error
  | unsent failure => ∃ error, failure = .control error
  | unstarted failure => ∃ path pid, failure = .control (.alreadyRunning path pid)

variable [ConsoleLibrary]

/-- The console that it is told on: a new one if the vector was forwarded. -/
def teller (console : ConsoleLibrary.Opened) (environment : Environment) :
    Setback → Except LibraryError ConsoleLibrary.Opened
  | unsent _ => ConsoleLibrary.opened environment
  | _ => .ok console

variable (setback : Setback) (console : ConsoleLibrary.Opened) (environment : Environment)

/-- A call that has shown something on its first stream, and tells what went wrong. -/
def told (screen : Screen) (machine : Machine) : Except ProgramFault Call := do
  let opened ← (setback.teller console environment).mapError .console
  let text ← (ConsoleLibrary.written opened environment
    (ConsoleLibrary.failure setback.failure.message)).mapError .console
  return .ended { exit := .status 1, screen := { screen with err := text }, machine }

/-- There is a console to tell it on, and it writes a text. -/
def Tells (opened : ConsoleLibrary.Opened) (text : Text) : Prop :=
  setback.teller console environment = .ok opened ∧
    ConsoleLibrary.written opened environment (ConsoleLibrary.failure setback.failure.message)
      = .ok text ∧ text ≠ []

/-- There is a console to tell it on, so that it can be seen. -/
def Shows : Prop := ∃ opened text, setback.Tells console environment opened text

/-- What becomes of a call that fails: it tells what it handles.  Of the rest, a failure of the
control channel is one of the start, and escapes; any other one does so too. -/
structure Becomes (result : Except ProgramFault Call) : Prop where
  handled : setback.IsHandled →
    ∃ screen machine, result = setback.told console environment screen machine
  unhandled : ¬ setback.IsHandled →
    (∃ error outcome, setback = .unstarted (.control error) ∧ result = .ok (.ended outcome) ∧
      outcome.exit = .escaped error) ∨
    (∀ error, setback.failure ≠ .control error) ∧ result = .error (.failure setback.failure)

/-- A call has told what went wrong, so that it can be seen, and has ended with status 1. -/
def IsTold (result : Except ProgramFault Call) : Prop :=
  ∃ opened text outcome, setback.Tells console environment opened text ∧
    result = .ok (.ended outcome) ∧ outcome.exit = .status 1 ∧ outcome.screen.err = text

variable {setback console environment}

theorem exit_of_told {screen : Screen} {machine : Machine} {outcome : Outcome}
    (h : setback.told console environment screen machine = .ok (.ended outcome)) :
    outcome.exit = .status 1 := by
  unfold told at h
  cases hteller : setback.teller console environment with
  | error fault =>
    rw [hteller] at h
    cases h
  | ok opened =>
    rw [hteller] at h
    dsimp only [Except.mapError, bind, Except.bind] at h
    generalize ConsoleLibrary.written opened environment _ = written at h
    cases written with
    | error fault => cases h
    | ok text =>
      cases h
      rfl

/-- **What goes wrong is told exactly if it is handled**, and there is a console to be seen. -/
theorem Becomes.isTold_iff {result : Except ProgramFault Call}
    (h : setback.Becomes console environment result) :
    setback.IsTold console environment result ↔
      setback.IsHandled ∧ setback.Shows console environment := by
  constructor
  · rintro ⟨opened, text, outcome, htells, hresult, hexit, -⟩
    refine ⟨?_, opened, text, htells⟩
    by_contra hnot
    obtain ⟨error, escaped, -, hescapes, hescaped⟩ | ⟨-, hfault⟩ := h.unhandled hnot
    · rw [hresult] at hescapes
      cases hescapes
      rw [hexit] at hescaped
      cases hescaped
    · rw [hresult] at hfault
      cases hfault
  · rintro ⟨hhandled, opened, text, htells⟩
    obtain ⟨screen, machine, hresult⟩ := h.handled hhandled
    refine ⟨opened, text, { exit := .status 1, screen := { screen with err := text }, machine },
      htells, ?_, rfl, rfl⟩
    obtain ⟨hteller, hwritten, -⟩ := htells
    rw [hresult, told, hteller, Except.mapError]
    dsimp only [bind, Except.bind]
    rw [hwritten]
    rfl

end Setback

/-- A call ends with a status: at once, or once the service ends that it runs. -/
def Call.HasStatus : Call → Prop
  | .ended outcome => ∃ code, outcome.exit = .status code ∨ outcome.exit = .launched code
  | .running .. => True

namespace Machine

section

variable (m : Machine) (setting : CallSetting) (config : Config) (environment : Environment)
  (argv : List Text)

/-- What a service meets that is to be started on a machine, if it cannot be started. -/
def startFailure? : Option Failure :=
  match (Service.ofConfig config setting.pid setting.now m).launch.ended with
  | some (.failed failure) => some failure
  | _ => none

/-- The machine that a call without a running instance starts a service on: if its command is `run`,
and it is in the process that becomes the service. -/
def host? : Option Machine :=
  match setting.surroundings.readCommand argv with
  | .error _ => none
  | .ok invocation =>
    if ! invocation.isRun then none
    else if invocation.daemon = some true then
      match setting.screen.printAll (launchLines config), setting.side with
      | .ok _, .service => (m.openLog config.logFile).toOption
      | _, _ => none
    else some m

/-- Where a call fails that comes to its probe, if it does. -/
def setback? : Option Setback :=
  match m.probe config.socketPath.toText (.real config.connectTimeout) with
  | (.error failure, _) => some (.unprobed failure)
  | (.ok (some _), after) =>
    let relay := (after.forward config.socketPath.toText argv).1
    match setting.screen.writeAll relay.shown, relay.ending with
    | .ok _, .failed failure => some (.unsent failure)
    | _, _ => none
  | (.ok none, after) =>
    (after.host? (setting.reached m environment) config argv).bind fun host =>
      (host.startFailure? setting config).map .unstarted

end

section

variable {m after host : Machine} {setting : CallSetting} {config : Config}
  {environment : Environment} {argv : List Text} {setback : Setback}

/-! ### Which starts fail -/

/-- A service cannot be started exactly if its listener cannot. -/
theorem startFailure?_eq_some_iff {failure : Failure} :
    m.startFailure? setting config = some failure ↔
      (Service.ofConfig config setting.pid setting.now m).site.start.1 = .error failure := by
  unfold startFailure? Service.launch
  generalize hstart : (Service.ofConfig config setting.pid setting.now m).site.start = started
  obtain ⟨result, site⟩ := started
  cases result with
  | error refusal =>
    dsimp only
    exact ⟨fun h => congrArg Except.error (Option.some.inj h), fun h => by cases h; rfl⟩
  | ok _ =>
    refine iff_of_false ?_ nofun
    dsimp only [Service.finish]
    split_ifs
    · exact nofun
    · exact nofun

/-- A service whose start fails on the control channel finds another instance, cannot bind, or finds
what is no socket. -/
theorem control_of_startFailure {error : ControlError}
    (h : m.startFailure? setting config = some (.control error)) :
    (∃ pid, error = .alreadyRunning config.socketPath.toText pid) ∨
      (∃ cause, error = .unbindable config.socketPath.toText cause) ∨
      error = .notSocket config.socketPath.toText ∧
        Binding.Occupied m.files config.socketPath.toText := by
  obtain ⟨probed, hstart⟩ := (Service.ofConfig config setting.pid setting.now m).site.exists_start
  exact Binding.control_of_start (hstart.symm.trans (startFailure?_eq_some_iff.1 h))

/-- A service whose path is taken by what is no socket cannot be started. -/
theorem startFailure_of_occupied (h : Binding.Occupied m.files config.socketPath.toText) :
    m.startFailure? setting config = some (.control (.notSocket config.socketPath.toText)) := by
  obtain ⟨probed, hstart⟩ := (Service.ofConfig config setting.pid setting.now m).site.exists_start
  exact startFailure?_eq_some_iff.2 (hstart.trans (Binding.start_of_occupied h))

/-- Where a service of a call cannot be started. -/
theorem setback_eq_unstarted_iff {failure : Failure} :
    m.setback? setting config environment argv = some (.unstarted failure) ↔
      ∃ after host,
        m.probe config.socketPath.toText (.real config.connectTimeout) = (.ok none, after) ∧
        after.host? (setting.reached m environment) config argv = some host ∧
        host.startFailure? setting config = some failure := by
  constructor
  · intro h
    unfold setback? at h
    split at h
    · cases h
    · dsimp only at h
      split at h <;> cases h
    · rename_i after hprobe
      obtain ⟨host, hhost, hstart⟩ := Option.bind_eq_some_iff.1 h
      obtain ⟨failure, hfailure, hsame⟩ := Option.map_eq_some_iff.1 hstart
      cases hsame
      exact ⟨after, host, hprobe, hhost, hfailure⟩
  · rintro ⟨after, host, hprobe, hhost, hfailure⟩
    rw [setback?, hprobe]
    dsimp only
    rw [hhost, Option.bind_some, hfailure, Option.map_some]

end

/-! ### What keeps a call from its end -/

/-- A call ends with a status; or it is stranded, and never ends, or with a fault. -/
def Settles (stranded : Prop) (result : Except ProgramFault Call) : Prop :=
  (¬ stranded ∧ ∃ call, result = .ok call ∧ call.HasStatus) ∨
    stranded ∧ ∀ call, result = .ok call →
      ∃ outcome, call = .ended outcome ∧ outcome.exit = .waiting

theorem Settles.of_status {stranded : Prop} {result : Except ProgramFault Call} {call : Call}
    (h : ¬ stranded) (hresult : result = .ok call) (hstatus : call.HasStatus) :
    Settles stranded result :=
  .inl ⟨h, call, hresult, hstatus⟩

theorem Settles.of_fault {stranded : Prop} {result : Except ProgramFault Call}
    {fault : ProgramFault} (h : stranded) (hresult : result = .error fault) :
    Settles stranded result := by
  refine .inr ⟨h, fun call hcall => ?_⟩
  rw [hresult] at hcall
  cases hcall

theorem not_exists_ok_eq_error {α ε : Type} {a : α} :
    ¬ ∃ fault : ε, (Except.ok a : Except ε α) = .error fault := nofun

section

variable [ConsoleLibrary]

section

variable (m : Machine) (setting : CallSetting) (console : ConsoleLibrary.Opened) (config : Config)
  (environment : Environment) (argv : List Text)

/-- What keeps a call without a running instance from its end, though nothing fails that it does:
its stream refuses the help text or the lines of a launch, the lines cannot be told of the absence or
of a silent service, or there can be no log file. -/
def IsStrandedAlone : Prop :=
  match setting.surroundings.readCommand argv with
  | .error refusal => ∃ fault, setting.screen.refuse refusal = .error fault
  | .ok invocation =>
    if ! invocation.isRun then
      ∃ fault, (absenceLines config.programName).foldlM
        (fun screen line => screen.tell console setting.surroundings.environment line)
        setting.screen = .error fault
    else if invocation.daemon = some true then
      match setting.screen.printAll (launchLines config), setting.side with
      | .error _, _ => True
      | .ok screen, .launcher =>
        ∃ fault, m.awaitDaemon screen setting.surroundings.environment config.programName
          config.socketPath.toText config.logFile.toText (.real config.connectTimeout)
            = .error fault
      | .ok _, .service => ∃ fault, m.openLog config.logFile = .error fault
    else False

/-- What keeps a call from its end, though nothing fails that it does: it finds no one and is kept
from it then, its stream refuses what comes back, or the instance never answers to its end. -/
def IsStranded : Prop :=
  match m.probe config.socketPath.toText (.real config.connectTimeout) with
  | (.error _, _) => False
  | (.ok (some _), after) =>
    let relay := (after.forward config.socketPath.toText argv).1
    (∃ fault, setting.screen.writeAll relay.shown = .error fault) ∨ relay.ending = .waiting
  | (.ok none, after) =>
    after.IsStrandedAlone (setting.reached m environment) console config argv

end

variable {m after host : Machine} {setting : CallSetting} {console : ConsoleLibrary.Opened}
  {config : Config} {environment : Environment} {argv : List Text} {setback : Setback}

/-! ### What becomes of a failure -/

/-- A complaint on a console that is there. -/
theorem complain_eq (m : Machine) {screen : Screen} (hscreen : screen.err = [])
    (console : ConsoleLibrary.Opened) (environment : Environment) (error : ControlError) :
    (m.complain screen console environment error).map Call.ended =
      (do
        let text ← (ConsoleLibrary.written console environment
          (ConsoleLibrary.failure error.message)).mapError .console
        return .ended { exit := .status 1, screen := { screen with err := text }, machine := m }) := by
  unfold complain Screen.tell
  cases ConsoleLibrary.written console environment (ConsoleLibrary.failure error.message) with
  | error fault => rfl
  | ok text =>
    dsimp only [Except.mapError, Except.map, bind, Except.bind]
    rw [Screen.writeError, hscreen]
    rfl

/-- What becomes of a vector that cannot be forwarded, once the stream has taken what was shown. -/
theorem send_becomes {screen shown : Screen} (hscreen : screen.err = []) {failure : Failure}
    (hshown : screen.writeAll (m.forward config.socketPath.toText argv).1.shown = .ok shown)
    (h : (m.forward config.socketPath.toText argv).1.ending = .failed failure) :
    (Setback.unsent failure).Becomes console environment
      ((m.send screen environment config.socketPath.toText argv).map .ended) := by
  unfold send
  generalize m.forward config.socketPath.toText argv = forwarded at h hshown ⊢
  obtain ⟨relay, after⟩ := forwarded
  dsimp only at h hshown ⊢
  have herr : shown.err = [] := by
    obtain ⟨-, rfl⟩ := Screen.writeAll_eq_ok_iff.1 hshown
    exact hscreen
  rw [hshown, h]
  refine ⟨?handled, fun hnot => .inr ?unhandled⟩
  case handled =>
    rintro ⟨error, rfl⟩
    refine ⟨shown, after, ?_⟩
    dsimp only [Setback.told, Setback.teller, bind, Except.bind]
    cases ConsoleLibrary.opened environment with
    | error fault => rfl
    | ok opened => exact complain_eq after herr opened environment error
  case unhandled =>
    have hother : ∀ error, failure ≠ .control error := fun error herror => hnot ⟨error, herror⟩
    refine ⟨hother, ?_⟩
    cases failure with
    | control error => exact absurd rfl (hother error)
    | system fault => rfl
    | compositeTag kind => rfl

/-- What becomes of a service that cannot be started. -/
theorem serve_becomes {screen : Screen} (hscreen : screen.err = []) {failure : Failure}
    (h : m.startFailure? setting config = some failure) :
    (Setback.unstarted failure).Becomes console setting.surroundings.environment
      (m.serve setting console config screen) := by
  unfold startFailure? at h
  unfold serve
  dsimp only
  generalize (Service.ofConfig config setting.pid setting.now m).launch = service at h ⊢
  have hended : service.ended = some (.failed failure) := by
    split at h
    · cases h
      assumption
    · cases h
  rw [hended]
  refine ⟨?handled, fun hnot => ?unhandled⟩
  case handled =>
    rintro ⟨path, pid, rfl⟩
    exact ⟨screen, service.site.machine,
      complain_eq _ hscreen console _ (.alreadyRunning path pid)⟩
  case unhandled =>
    cases failure with
    | control error =>
      refine .inl
        ⟨error, { exit := .escaped error, screen, machine := service.site.machine }, rfl, ?_, rfl⟩
      cases error with
      | alreadyRunning path pid => exact absurd ⟨path, pid, rfl⟩ hnot
      | _ => rfl
    | system fault => exact .inr ⟨nofun, rfl⟩
    | compositeTag kind => exact .inr ⟨nofun, rfl⟩

/-- A call without a running instance serves on the machine that it starts a service on. -/
theorem callAlone_of_host (h : m.host? setting config argv = some host) :
    ∃ screen : Screen, screen.err = [] ∧
      m.callAlone setting console config argv = host.serve setting console config screen := by
  unfold host? at h
  unfold callAlone
  dsimp only
  cases hcommand : setting.surroundings.readCommand argv with
  | error refusal =>
    rw [hcommand] at h
    cases h
  | ok invocation =>
    rw [hcommand] at h
    dsimp only at h ⊢
    split_ifs at h ⊢ with hrun hdaemon
    · unfold detach
      cases hprinted : setting.screen.printAll (launchLines config) with
      | error fault =>
        rw [hprinted] at h
        cases h
      | ok screen =>
        rw [hprinted] at h
        cases hside : setting.side with
        | launcher =>
          rw [hside] at h
          cases h
        | service =>
          rw [hside] at h
          cases hlog : m.openLog config.logFile with
          | error fault =>
            rw [hlog] at h
            cases h
          | ok opened =>
            rw [hlog] at h
            cases h
            obtain ⟨-, hscreen⟩ := Screen.writeAll_eq_ok_iff.1 hprinted
            exact ⟨screen, by rw [hscreen]; rfl, rfl⟩
    · cases h
      exact ⟨setting.screen, rfl, rfl⟩

/-! ### What becomes of the other calls -/

/-- The process that launched a service ends with a status if it ends. -/
theorem exit_of_awaitDaemon {screen : Screen} {name path log : Text} {timeout : Instant}
    {outcome : Outcome} (h : m.awaitDaemon screen environment name path log timeout = .ok outcome) :
    ∃ code, outcome.exit = .status code := by
  unfold awaitDaemon at h
  cases hconsole : (ConsoleLibrary.opened environment).mapError ProgramFault.console with
  | error fault =>
    rw [hconsole] at h
    cases h
  | ok console =>
    rw [hconsole] at h
    dsimp only [bind, Except.bind] at h
    split at h
    · cases h
    · split at h
      · cases h
      · cases h
        exact ⟨0, rfl⟩
    · split at h
      · cases h
      · cases h
        exact ⟨1, rfl⟩

/-- A service that can be started runs. -/
theorem serve_runs {screen : Screen} (h : m.startFailure? setting config = none) :
    ∃ service, m.serve setting console config screen = .ok (.running service screen) := by
  unfold startFailure? at h
  unfold serve
  dsimp only
  generalize (Service.ofConfig config setting.pid setting.now m).launch = service at h ⊢
  refine ⟨service, ?_⟩
  split at h
  · cases h
  · rename_i hruns
    split
    · exact absurd ‹_› (hruns _)
    · exact absurd ‹_› (hruns _)
    · exact absurd ‹_› (hruns _)
    · rfl

theorem serve_settles {screen : Screen} (h : m.startFailure? setting config = none) :
    Settles False (m.serve setting console config screen) := by
  obtain ⟨service, hruns⟩ := serve_runs h
  exact .of_status id hruns trivial

theorem detach_settles
    (h : ∀ screen host, setting.screen.printAll (launchLines config) = .ok screen →
      setting.side = .service → m.openLog config.logFile = .ok host →
      host.startFailure? setting config = none) :
    Settles
      (match setting.screen.printAll (launchLines config), setting.side with
        | .error _, _ => True
        | .ok screen, .launcher =>
          ∃ fault, m.awaitDaemon screen setting.surroundings.environment config.programName
            config.socketPath.toText config.logFile.toText (.real config.connectTimeout)
              = .error fault
        | .ok _, .service => ∃ fault, m.openLog config.logFile = .error fault)
      (m.detach setting console config setting.screen) := by
  unfold detach
  cases hprinted : setting.screen.printAll (launchLines config) with
  | error fault => exact .of_fault trivial rfl
  | ok screen =>
    dsimp only [bind, Except.bind]
    cases hside : setting.side with
    | launcher =>
      dsimp only
      cases hawaited : m.awaitDaemon screen setting.surroundings.environment config.programName
          config.socketPath.toText config.logFile.toText (.real config.connectTimeout) with
      | error fault => exact .of_fault ⟨fault, rfl⟩ rfl
      | ok outcome =>
        obtain ⟨code, hcode⟩ := exit_of_awaitDaemon hawaited
        refine .of_status not_exists_ok_eq_error rfl ⟨code, .inr ?_⟩
        dsimp only
        rw [hcode]
    | service =>
      dsimp only
      cases hlog : m.openLog config.logFile with
      | error fault => exact .of_fault ⟨fault, rfl⟩ rfl
      | ok opened =>
        obtain ⟨service, hruns⟩ := serve_runs (h screen opened hprinted hside hlog)
        exact .of_status not_exists_ok_eq_error hruns trivial

theorem callAlone_settles
    (h : ∀ host, m.host? setting config argv = some host →
      host.startFailure? setting config = none) :
    Settles (m.IsStrandedAlone setting console config argv)
      (m.callAlone setting console config argv) := by
  unfold IsStrandedAlone callAlone
  unfold host? at h
  dsimp only
  cases hcommand : setting.surroundings.readCommand argv with
  | error refusal =>
    dsimp only
    cases setting.screen.refuse refusal with
    | error fault => exact .of_fault ⟨fault, rfl⟩ rfl
    | ok screen => exact .of_status not_exists_ok_eq_error rfl ⟨refusal.status, .inl rfl⟩
  | ok invocation =>
    rw [hcommand] at h
    dsimp only at h ⊢
    split_ifs at h ⊢ with hrun hdaemon
    · generalize (absenceLines config.programName).foldlM
        (fun (screen : Screen) line => screen.tell console setting.surroundings.environment line)
        setting.screen = shown
      cases shown with
      | error fault => exact .of_fault ⟨fault, rfl⟩ rfl
      | ok screen => exact .of_status not_exists_ok_eq_error rfl ⟨1, .inl rfl⟩
    · refine detach_settles fun screen host hprinted hside hlog => h host ?_
      rw [hprinted, hside, hlog]
      rfl
    · exact serve_settles (h m rfl)

/-- A call that starts a service on a machine is not stranded. -/
theorem not_isStrandedAlone_of_host (h : m.host? setting config argv = some host) :
    ¬ m.IsStrandedAlone setting console config argv := by
  unfold host? at h
  unfold IsStrandedAlone
  split at h
  · cases h
  · split_ifs at h ⊢
    · split at h
      · rename_i hprinted hside
        rw [hprinted, hside]
        rintro ⟨fault, hlog⟩
        rw [hlog] at h
        cases h
      · cases h
    · exact id

/-- A call that fails is not stranded. -/
theorem not_isStranded_of_setback (h : m.setback? setting config environment argv = some setback) :
    ¬ m.IsStranded setting console config environment argv := by
  unfold setback? at h
  unfold IsStranded
  split at h
  · exact id
  · dsimp only at h ⊢
    split at h
    · rename_i hshown hending
      rw [hshown, hending]
      exact not_or.2 ⟨not_exists_ok_eq_error, nofun⟩
    · cases h
  · obtain ⟨host, hhost, -⟩ := Option.bind_eq_some_iff.1 h
    exact not_isStrandedAlone_of_host hhost

/-! ### Which calls report -/

variable [EnvFile.Reader]

/-- **What becomes of a call that fails.** -/
theorem call_becomes (prepares : m.Prepares setting console config environment)
    (h : m.setback? setting config environment argv = some setback) :
    setback.Becomes console environment (m.call setting argv) := by
  rw [call_eq prepares]
  unfold setback? at h
  split at h
  · rename_i failure after hprobe
    cases h
    rw [hprobe]
    cases failure with
    | control error =>
      refine ⟨fun _ => ⟨setting.screen, after, complain_eq after rfl console environment error⟩,
        fun hnot => ?_⟩
      exact absurd ⟨error, rfl⟩ hnot
    | system fault => exact ⟨nofun, fun _ => .inr ⟨nofun, rfl⟩⟩
    | compositeTag kind => exact ⟨nofun, fun _ => .inr ⟨nofun, rfl⟩⟩
  · rename_i pid after hprobe
    rw [hprobe]
    dsimp only at h
    split at h
    · rename_i hshown hending
      cases h
      exact send_becomes rfl hshown hending
    · cases h
  · rename_i after hprobe
    rw [hprobe]
    obtain ⟨host, hhost, hstart⟩ := Option.bind_eq_some_iff.1 h
    obtain ⟨failure, hfailure, rfl⟩ := Option.map_eq_some_iff.1 hstart
    have hreached : host.startFailure? (setting.reached m environment) config = some failure :=
      hfailure
    obtain ⟨screen, hscreen, hcall⟩ := callAlone_of_host hhost
    dsimp only
    rw [hcall]
    exact serve_becomes hscreen hreached

/-- **What becomes of a call that fails at nothing.** -/
theorem call_settles (prepares : m.Prepares setting console config environment)
    (h : m.setback? setting config environment argv = none) :
    Settles (m.IsStranded setting console config environment argv) (m.call setting argv) := by
  rw [call_eq prepares]
  unfold setback? at h
  unfold IsStranded
  split at h
  · cases h
  · rename_i pid after hprobe
    rw [hprobe]
    dsimp only [send] at h ⊢
    generalize after.forward config.socketPath.toText argv = forwarded at h ⊢
    obtain ⟨relay, last⟩ := forwarded
    dsimp only at h ⊢
    cases hshown : setting.screen.writeAll relay.shown with
    | error fault => exact .of_fault (.inl ⟨fault, rfl⟩) rfl
    | ok screen =>
      cases hending : relay.ending with
      | closed =>
        exact .of_status (not_or.2 ⟨not_exists_ok_eq_error, nofun⟩) rfl ⟨0, .inl rfl⟩
      | failed failure =>
        rw [hshown, hending] at h
        cases h
      | waiting =>
        refine .inr ⟨.inr rfl, fun call hcall => ?_⟩
        cases hcall
        exact ⟨_, rfl, rfl⟩
  · rename_i after hprobe
    rw [hprobe]
    refine callAlone_settles fun host hhost => ?_
    have hstart : (host.startFailure? setting config).map Setback.unstarted = none :=
      Option.bind_eq_none_iff.1 h host hhost
    exact Option.map_eq_none_iff.1 hstart

/-- Where the settings can be had, a call that does not come to its probe ends with a fault. -/
theorem call_of_not_prepares (h : ¬ ∃ console, m.Prepares setting console config environment)
    (loads : ∃ notices, Surroundings.load { setting.surroundings with files := m.files }
      (some ".env") none = .ok (config, environment, notices)) (argv : List Text) :
    ∃ fault, m.call setting argv = .error fault := by
  obtain ⟨notices, hload⟩ := loads
  unfold call
  dsimp only
  cases hopens : ConsoleLibrary.opened setting.surroundings.environment with
  | error fault => exact ⟨_, rfl⟩
  | ok console =>
    cases hlevel : levelOf config.logLevel with
    | error fault =>
      rw [hload]
      simp only [hlevel, Except.mapError, bind, Except.bind]
      exact ⟨_, rfl⟩
    | ok level => exact absurd ⟨console, hopens, ⟨notices, hload⟩, level, hlevel⟩ h

/-- A call ends with a status, and tells what goes wrong. -/
structure Reports (m : Machine) (setting : CallSetting) (config : Config)
    (environment : Environment) (argv : List Text) : Prop where
  ends : ∃ call, m.call setting argv = .ok call ∧ call.HasStatus
  tells : ∀ console setback,
    ConsoleLibrary.opened setting.surroundings.environment = .ok console →
    m.setback? setting config environment argv = some setback →
    setback.IsTold console environment (m.call setting argv)

/-- A failure of the control channel escapes a call. -/
def Escapes (m : Machine) (setting : CallSetting) (argv : List Text) (error : ControlError) :
    Prop :=
  ∃ outcome, m.call setting argv = .ok (.ended outcome) ∧ outcome.exit = .escaped error

theorem Reports.not_escapes (h : m.Reports setting config environment argv) {error : ControlError} :
    ¬ m.Escapes setting argv error := by
  rintro ⟨outcome, hcall, hexit⟩
  obtain ⟨call, hends, hstatus⟩ := h.ends
  rw [hcall] at hends
  cases hends
  obtain ⟨code, hcode | hcode⟩ := hstatus <;> rw [hexit] at hcode <;> cases hcode

/-- A failure of the control channel that escapes a call that comes to its probe is one of the start
of a service. -/
theorem escapes_iff (prepares : m.Prepares setting console config environment)
    (error : ControlError) :
    m.Escapes setting argv error ↔
      m.setback? setting config environment argv = some (.unstarted (.control error)) ∧
        ¬ (Setback.unstarted (.control error)).IsHandled := by
  constructor
  · rintro ⟨outcome, hcall, hexit⟩
    cases hsetback : m.setback? setting config environment argv with
    | none =>
      obtain ⟨-, call, hresult, hstatus⟩ | ⟨-, hwaits⟩ := call_settles prepares hsetback
      · rw [hcall] at hresult
        cases hresult
        obtain ⟨code, hcode | hcode⟩ := hstatus <;> rw [hexit] at hcode <;> cases hcode
      · obtain ⟨_, hsame, hwaiting⟩ := hwaits _ hcall
        cases hsame
        rw [hexit] at hwaiting
        cases hwaiting
    | some setback =>
      have becomes := call_becomes prepares hsetback
      by_cases hhandled : setback.IsHandled
      · obtain ⟨out, machine, htold⟩ := becomes.handled hhandled
        rw [Setback.exit_of_told (htold.symm.trans hcall)] at hexit
        cases hexit
      · obtain ⟨error', escaped, rfl, hescapes, hescaped⟩ | ⟨-, hfault⟩ :=
          becomes.unhandled hhandled
        · rw [hcall] at hescapes
          cases hescapes
          rw [hexit] at hescaped
          cases hescaped
          exact ⟨rfl, hhandled⟩
        · rw [hcall] at hfault
          cases hfault
  · rintro ⟨hsetback, hunhandled⟩
    obtain ⟨error', outcome, hsame, hcall, hexit⟩ | ⟨hother, -⟩ :=
      (call_becomes prepares hsetback).unhandled hunhandled
    · cases hsame
      exact ⟨outcome, hcall, hexit⟩
    · exact absurd rfl (hother error)

/-- **Which failures a call reports.**  Take settings that can be had, any vector, anything that
lies at the path of the socket, and any process that takes connections there.

* A call reports, that is, it ends with a status and shows what it fails at with status 1, exactly
  if it comes to its probe, is not stranded, and all that it fails at is handled and has a console
  to be seen.
* What escapes it otherwise of the control channel is a failure of the start of a service, of a call
  that found no one: that the path is taken by what is no socket, and this wherever it is, or that
  the socket cannot be bound. -/
theorem call_reports_exactly
    (loads : ∃ notices, Surroundings.load { setting.surroundings with files := m.files }
      (some ".env") none = .ok (config, environment, notices)) (argv : List Text) :
    (m.Reports setting config environment argv ↔
      ∃ console, m.Prepares setting console config environment ∧
        ¬ m.IsStranded setting console config environment argv ∧
        ∀ setback, m.setback? setting config environment argv = some setback →
          setback.IsHandled ∧ setback.Shows console environment) ∧
    ∀ error, m.Escapes setting argv error ↔
      ∃ console after host, m.Prepares setting console config environment ∧
        m.probe config.socketPath.toText (.real config.connectTimeout) = (.ok none, after) ∧
        after.host? (setting.reached m environment) config argv = some host ∧
        (error = .notSocket config.socketPath.toText ∧
            Binding.Occupied host.files config.socketPath.toText ∨
          ∃ cause, error = .unbindable config.socketPath.toText cause ∧
            host.startFailure? setting config = some (.control error)) := by
  by_cases hprepares : ∃ console, m.Prepares setting console config environment
  · obtain ⟨console, prepares⟩ := hprepares
    refine ⟨⟨?whenReported, ?reports⟩, fun error => ?escapes⟩
    case whenReported =>
      rintro ⟨⟨call, hcall, hstatus⟩, htells⟩
      refine ⟨console, prepares, ?_, fun setback h => ?_⟩
      · cases h : m.setback? setting config environment argv with
        | some setback => exact not_isStranded_of_setback h
        | none =>
          obtain ⟨hfree, -⟩ | ⟨-, hwaits⟩ := call_settles prepares h
          · exact hfree
          · obtain ⟨outcome, rfl, hexit⟩ := hwaits call hcall
            obtain ⟨code, hcode | hcode⟩ := hstatus <;> rw [hexit] at hcode <;> cases hcode
      · exact (call_becomes prepares h).isTold_iff.1 (htells console setback prepares.opens h)
    case reports =>
      rintro ⟨console, prepares, hfree, hhandles⟩
      have htold : ∀ setback, m.setback? setting config environment argv = some setback →
          setback.IsTold console environment (m.call setting argv) :=
        fun setback h => (call_becomes prepares h).isTold_iff.2 (hhandles setback h)
      constructor
      · cases h : m.setback? setting config environment argv with
        | some setback =>
          obtain ⟨_, _, outcome, _, hcall, hexit, _⟩ := htold setback h
          exact ⟨_, hcall, 1, .inl hexit⟩
        | none =>
          obtain ⟨-, hends⟩ | ⟨hstranded, -⟩ := call_settles prepares h
          · exact hends
          · exact absurd hstranded hfree
      · intro console' setback hopens h
        obtain rfl : console = console' := Except.ok.inj (prepares.opens.symm.trans hopens)
        exact htold setback h
    case escapes =>
      rw [escapes_iff prepares]
      constructor
      · rintro ⟨hsetback, hunhandled⟩
        obtain ⟨after, host, hprobe, hhost, hfailure⟩ := setback_eq_unstarted_iff.1 hsetback
        refine ⟨console, after, host, prepares, hprobe, hhost, ?_⟩
        obtain ⟨pid, rfl⟩ | ⟨cause, rfl⟩ | hoccupied := control_of_startFailure hfailure
        · exact absurd ⟨_, pid, rfl⟩ hunhandled
        · exact .inr ⟨cause, rfl, hfailure⟩
        · exact .inl hoccupied
      · rintro ⟨_, after, host, _, hprobe, hhost, ⟨rfl, hoccupied⟩ | ⟨cause, rfl, hfailure⟩⟩
        · have hfailure : host.startFailure? setting config = _ :=
            startFailure_of_occupied hoccupied
          exact ⟨setback_eq_unstarted_iff.2 ⟨after, host, hprobe, hhost, hfailure⟩, nofun⟩
        · exact ⟨setback_eq_unstarted_iff.2 ⟨after, host, hprobe, hhost, hfailure⟩, nofun⟩
  · obtain ⟨fault, hfault⟩ := call_of_not_prepares hprepares loads argv
    refine ⟨iff_of_false ?_ ?_, fun error => iff_of_false ?_ ?_⟩
    · rintro ⟨⟨call, hcall, _⟩, _⟩
      rw [hfault] at hcall
      cases hcall
    · rintro ⟨console, prepares, _⟩
      exact hprepares ⟨console, prepares⟩
    · rintro ⟨outcome, hcall, _⟩
      rw [hfault] at hcall
      cases hcall
    · rintro ⟨console, _, _, prepares, _⟩
      exact hprepares ⟨console, prepares⟩

end

/-- A call that finds no one and starts a service, where its address is too long to be probed, tells
it. -/
theorem distant_run_reports :
    let alone : Machine := { files := { entries := [] } }
    alone.Reports (.withVariables .distant)
      { Config.usual with socketPath := Path.ofText (List.replicate 108 'a') } .distant
      ["prog", "run"] := by
  intro alone
  have prepares : alone.Prepares (.withVariables .distant)
      Console.plain
      { Config.usual with socketPath := Path.ofText (List.replicate 108 'a') } .distant :=
    ⟨rfl, ⟨[], rfl⟩, ⟨20, rfl⟩⟩
  refine (call_reports_exactly prepares.loads ["prog", "run"]).1.2
    ⟨_, prepares, id, fun setback h => ?_⟩
  cases h
  have hwidth : Console.plain.widthIn .distant = .ok defaultColumns := rfl
  obtain ⟨told, htold, hempty⟩ := Console.plain.write_failure hwidth _
  exact ⟨⟨_, rfl⟩, Console.plain, told, rfl, htold, mt hempty.1 (by decide)⟩

/-- **A failure escapes a call that is to start a service where a file lies**, so that it reports
none. -/
theorem occupied_run_escapes :
    let m : Machine := { files := { entries := [(⟨false, ["ctl.sock"]⟩, .file [])] } }
    m.Escapes (.withVariables .usual) ["prog", "run"] (.notSocket "ctl.sock") ∧
      ¬ m.Reports (.withVariables .usual) .usual .usual ["prog", "run"] := by
  intro m
  have prepares : m.Prepares (.withVariables .usual)
      Console.plain .usual .usual := prepares_usual rfl
  have hoccupied : Binding.Occupied m.files "ctl.sock" := ⟨.file [], rfl, nofun⟩
  have hhost : m.host? (CallSetting.reached (.withVariables .usual) m .usual) .usual ["prog", "run"]
      = some m := by rfl
  have hescapes : m.Escapes (.withVariables .usual) ["prog", "run"] (.notSocket "ctl.sock") :=
    (escapes_iff prepares _).2
      ⟨setback_eq_unstarted_iff.2 ⟨m, m, rfl, hhost, startFailure_of_occupied hoccupied⟩, nofun⟩
  exact ⟨hescapes, fun hreports => hreports.not_escapes hescapes⟩

end Machine

end ControlChannel
