import ControlChannel.Proofs.BuiltInCommands
import ControlChannel.Proofs.Rejections

/-!
# The commands that are read

What the grammar gives for an argument vector, and that the calls of the running instance are made
for just that.

* `Invocation.SaidBy`, `Surroundings.reads_plain_words` — **which plain words are a command, and
  which one**;
* `Level.isSome_operand_of_fit` — a level that fits has taken an operand exactly if it has one;
* `Grammar.Offers`, `Grammar.offers_of_read` — a command that is read is one of the grammar, with
  its words exactly if it takes any;
* `ServiceState.execute_answers` — a command of the control grammar has a call;
* `Surroundings.commands_in_step` — **every vector is a command or refused, and every command has
  its call**.

Plain words are a small part of the vectors: switches in any spelling, clusters of them and double
dashes come anywhere.  What is said of all vectors follows from the shape of a match alone.
-/

namespace ControlChannel

/-! ### Plain words -/

/-- A command of a running instance in words: `run` alone, which stays in the foreground; another
name alone; or `echo` with words of any kind after it. -/
inductive Invocation.SaidBy : Invocation → List Text → Prop
  | run : SaidBy { command := .str "run", daemon := some false } ["run"]
  | alone {name : Text} (h : name ∈ (["status", "ping", "kill"] : List Text)) :
    SaidBy { command := .str name } [name]
  | echo {words : List Text} (hne : words ≠ []) :
    SaidBy { command := .str "echo", text := some words } ("echo" :: words)

/-- These are the commands that words say in the control grammar. -/
theorem controlGrammar_said_iff {words : List Text} {i : Invocation} :
    controlGrammar.Says words i ↔ i.SaidBy words := by
  constructor
  · rintro ⟨s, others, rfl, hs, hothers⟩
    have hmem : s ∈ controlGrammar.subcommands := List.mem_of_find?_eq_some hs
    simp only [controlGrammar, List.mem_cons, List.not_mem_nil, or_false] at hmem
    rcases hmem with rfl | rfl | rfl | rfl | rfl
    · obtain ⟨rfl, rfl⟩ := hothers
      exact .run
    · obtain ⟨rfl, rfl⟩ := hothers
      exact .alone (by decide)
    · obtain ⟨rfl, rfl⟩ := hothers
      exact .alone (by decide)
    · obtain ⟨hne, rfl⟩ := hothers
      exact .echo hne
    · obtain ⟨rfl, rfl⟩ := hothers
      exact .alone (by decide)
  · intro h
    cases h with
    | run => exact ⟨controlGrammar.subcommands.get ⟨0, by decide⟩, [], rfl, by decide, rfl, rfl⟩
    | alone h =>
      simp only [List.mem_cons, List.not_mem_nil, or_false] at h
      rcases h with rfl | rfl | rfl
      · exact ⟨controlGrammar.subcommands.get ⟨1, by decide⟩, [], rfl, by decide, rfl, rfl⟩
      · exact ⟨controlGrammar.subcommands.get ⟨2, by decide⟩, [], rfl, by decide, rfl, rfl⟩
      · exact ⟨controlGrammar.subcommands.get ⟨4, by decide⟩, [], rfl, by decide, rfl, rfl⟩
    | echo hne =>
      exact ⟨controlGrammar.subcommands.get ⟨3, by decide⟩, _, rfl, by decide, hne, rfl⟩

/-- **Which plain words are a command, and which one.**  Take any program and any words after it of
which none begins with a dash, empty ones and ones with spaces included.  They are read as a command
exactly if they say it, and refused with status 2 if they say none. -/
theorem Surroundings.reads_plain_words (s : Surroundings) (argv0 : Text) {words : List Text}
    (h : ∀ word ∈ words, word.IsPlain) :
    (∀ i, s.readCommand (argv0 :: words) = .ok i ↔ i.SaidBy words) ∧
      ((¬ ∃ i : Invocation, i.SaidBy words) →
        ∃ refusal, s.readCommand (argv0 :: words) = .error refusal ∧ refusal.status = 2) := by
  have hread : ∀ i, i.SaidBy words → s.readCommand (argv0 :: words) = .ok i := by
    intro i hsaid
    exact Grammar.read_of_said rfl (controlGrammar_said_iff.2 hsaid) h _ _
  have hrefused : (¬ ∃ i : Invocation, i.SaidBy words) →
      ∃ refusal, s.readCommand (argv0 :: words) = .error refusal ∧ refusal.status = 2 := by
    intro hnone
    apply Grammar.read_of_unsaid rfl _ h
    simpa only [controlGrammar_said_iff] using hnone
  refine ⟨fun i => ⟨fun hi => ?_, hread i⟩, hrefused⟩
  by_contra hsaid
  obtain ⟨other, hother⟩ | hnone := Classical.em (∃ i : Invocation, i.SaidBy words)
  · rw [hread other hother] at hi
    cases hi
    exact hsaid hother
  · obtain ⟨refusal, hrefusal, -⟩ := hrefused hnone
    rw [hi] at hrefusal
    cases hrefusal

/-- Empty words and words with spaces reach `echo`, and the beginning of a name is no name. -/
theorem Surroundings.reads_echo_not_shortened :
    Surroundings.bare.readCommand ["prog", "echo", "", "a b"]
        = .ok { command := .str "echo", text := some ["", "a b"] } ∧
      ∃ refusal, Surroundings.bare.readCommand ["prog", "ec", "a"] = .error refusal ∧
        refusal.status = 2 := by
  constructor
  · exact ((Surroundings.bare.reads_plain_words "prog" (by decide)).1 _).2 (.echo (by simp))
  · apply (Surroundings.bare.reads_plain_words "prog" (by decide)).2
    rintro ⟨i, h⟩
    generalize hwords : (["ec", "a"] : List Text) = words at h
    cases h with
    | run => exact absurd hwords (by decide)
    | alone _ => cases hwords
    | echo _ => exact absurd (List.cons.inj hwords).1 (by decide)

/-! ### Any arguments -/

namespace Level

variable {l : Level} {m after : Matched}

theorem operand_of_apply {switches : List Switch} (h : apply m switches = .ok after) :
    after.operand = m.operand := by
  induction switches generalizing m with
  | nil =>
    cases h
    rfl
  | cons s rest ih =>
    unfold apply at h
    split at h
    · cases h
    · rw [ih h]

theorem operand_of_takeSwitch {marked : Mark × Text} (h : l.takeSwitch m marked = .ok after) :
    after.operand = m.operand := by
  unfold takeSwitch at h
  split at h
  · split at h
    · exact operand_of_apply h
    · cases h
  · cases h
    rfl

/-- A level without an operand takes none. -/
theorem operand_of_takeAll (hlevel : l.operand = none) {fuel : Nat} {marked : List (Mark × Text)}
    (h : l.takeAll fuel m marked = .ok after) : after.operand = m.operand := by
  induction fuel generalizing m marked with
  | zero =>
    cases h
    rfl
  | succ fuel ih =>
    cases marked with
    | nil =>
      cases h
      rfl
    | cons first others =>
      rw [takeAll] at h
      split_ifs at h
      · cases htaken : l.takeSwitch m first with
        | error stop =>
          rw [htaken] at h
          cases h
        | ok next =>
          rw [htaken] at h
          rw [ih h, operand_of_takeSwitch htaken]
      · have hoffer : l.offer m (first :: others) = none := by rw [offer, hlevel]
        rw [hoffer] at h
        have hkept := ih h
        exact hkept

/-- **A level that fits has taken an operand exactly if it has one.** -/
theorem isSome_operand_of_fit {arguments : List Text} (h : l.fit arguments = .ok m) :
    m.operand.isSome = l.operand.isSome := by
  unfold fit at h
  cases hmarks : l.marks arguments with
  | error fault =>
    rw [hmarks] at h
    cases h
  | ok marked =>
    rw [hmarks] at h
    simp only [Except.mapError, bind, Except.bind] at h
    cases htaken : l.takeAll (2 * marked.length) {} marked with
    | error stop =>
      rw [htaken] at h
      cases h
    | ok taken =>
      rw [htaken] at h
      dsimp only at h
      cases hlevel : l.operand with
      | none =>
        have hnone := operand_of_takeAll hlevel htaken
        rw [hlevel] at h
        cases h
        rw [hnone]
        rfl
      | some operand =>
        rw [hlevel] at h
        cases hoperand : taken.operand with
        | none =>
          rw [hoperand] at h
          cases h
        | some words =>
          rw [hoperand] at h
          cases h
          rw [hoperand]
          rfl

end Level

namespace Grammar

/-- A command of a grammar: it has words exactly if its level takes any, and says whether the
service shall go into the background exactly if it has the switch for it. -/
def Offers (g : Grammar) (i : Invocation) : Prop :=
  ∃ s ∈ g.subcommands, i.command = .str s.name ∧ i.text.isSome = s.level.operand.isSome ∧
    i.daemon.isSome = s.level.switches.any (·.effect = .daemon)

/-- **A command that is read is one of the grammar.** -/
theorem offers_of_read {g : Grammar} {columns : Nat} {program : Text} {arguments : List Text}
    {i : Invocation} (h : g.read columns program arguments = .ok i) : g.Offers i := by
  unfold read at h
  cases houter : g.outer.fit arguments with
  | error stop =>
    rw [houter] at h
    cases stop <;> cases h
  | ok outer =>
    rw [houter] at h
    dsimp only at h
    unfold readSubcommand at h
    dsimp only at h
    cases hfind : g.subcommands.find? (·.name = (outer.operand.getD []).head?.getD []) with
    | none =>
      rw [hfind] at h
      cases h
    | some s =>
      rw [hfind] at h
      dsimp only at h
      cases hfit : s.level.fit ((outer.operand.getD []).drop 1) with
      | error stop =>
        rw [hfit] at h
        cases stop <;> cases h
      | ok m =>
        rw [hfit] at h
        dsimp only at h
        split_ifs at h
        cases h
        refine ⟨s, List.mem_of_find?_eq_some hfind, rfl, Level.isSome_operand_of_fit hfit, ?_⟩
        unfold invocationOf
        dsimp only
        split_ifs with hdaemon
        · rw [hdaemon]
          rfl
        · rw [Bool.eq_false_of_not_eq_true hdaemon]
          rfl

end Grammar

namespace ServiceState

/-- A number cannot be told: the clock tells none, or it has too many digits. -/
def Untold (fault : HandlerFault) : Prop := fault = .unwritten ∨ ∃ clock, fault = .clock clock

theorem untold_of_numeral {n : Int} {fault : HandlerFault} (h : numeral n = .error fault) :
    Untold fault := by
  unfold numeral at h
  cases hwritten : Numeral.write? n <;> rw [hwritten] at h <;> cases h
  exact .inl rfl

theorem untold_of_uptime {s : ServiceState} {now : Instant} {fault : HandlerFault}
    (h : s.uptime now = .error fault) : Untold fault := by
  unfold uptime at h
  cases htime : (now.since s.startedAt).truncate with
  | error clock =>
    rw [htime] at h
    cases h
    exact .inr ⟨clock, rfl⟩
  | ok seconds =>
    rw [htime] at h
    cases hwritten : uptimeText seconds <;> simp [Except.mapError, bind, Except.bind, hwritten] at h
    exact .inl h.symm

theorem untold_of_map {told : Except HandlerFault Text} {line : Text → Text} {fault : HandlerFault}
    (huntold : told = .error fault → Untold fault) (h : .error fault = told.map line) :
    Untold fault := by
  cases told with
  | error other =>
    cases h
    exact huntold rfl
  | ok text => cases h

/-- A look at the facts returns `false`, unless a number cannot be told. -/
theorem status_answers (s : ServiceState) (now : Instant) :
    (s.status now).ending = .returned (.bool false) ∨
      ∃ fault, Untold fault ∧ (s.status now).ending = .failed fault := by
  obtain hends | ⟨fault, hmem, hfails⟩ := telling_ending
    [(numeral s.pid).map fun pid => s.programName ++ " is running (PID: " ++ pid ++ ")\n",
      (s.uptime now).map fun uptime => "  Uptime: " ++ uptime ++ "\n",
      (numeral s.commandsHandled).map fun count => "  Commands handled: " ++ count ++ "\n"]
    (.returned (.bool false))
  · exact .inl hends
  · refine .inr ⟨fault, ?_, hfails⟩
    simp only [List.mem_cons, List.not_mem_nil, or_false] at hmem
    obtain hpid | huptime | hcount := hmem
    · exact untold_of_map untold_of_numeral hpid
    · exact untold_of_map untold_of_uptime huptime
    · exact untold_of_map untold_of_numeral hcount

/-- So does a call for `run`. -/
theorem call_run_answers (s : ServiceState) (now : Instant) (i : Invocation) :
    (s.call now i "run").ending = .returned (.bool false) ∨
      ∃ fault, Untold fault ∧ (s.call now i "run").ending = .failed fault := by
  obtain hends | ⟨fault, hmem, hfails⟩ := telling_ending
    [(numeral s.pid).map fun pid => s.programName ++ " is already running (PID: " ++ pid ++ ")\n"]
    (.returned (.bool false))
  · exact .inl hends
  · exact .inr ⟨fault, untold_of_map untold_of_numeral (List.mem_singleton.1 hmem), hfails⟩

theorem call_echo (s : ServiceState) (now : Instant) {i : Invocation} {words : List Text}
    (h : i.text = some words) :
    s.call now i "echo" = sending [Text.joined " " words ++ "\n"] (.returned (.bool false)) := by
  unfold call
  rw [h]
  rfl

/-- **A command of the control grammar has a call**: it lacks no field, and returns whether it is
`kill`, unless a number cannot be told. -/
theorem execute_answers (s : ServiceState) (now : Instant) {i : Invocation}
    (h : controlGrammar.Offers i) :
    (s.execute now i).1.ending = .returned (.bool true) ∧ i.command = .str "kill" ∨
      i.command ≠ .str "kill" ∧
        ((s.execute now i).1.ending = .returned (.bool false) ∨
          ∃ fault, Untold fault ∧ (s.execute now i).1.ending = .failed fault) := by
  obtain ⟨sub, hsub, hcommand, htext, -⟩ := h
  have hother : ∀ {name : Text}, name ≠ "kill" → Json.str name ≠ .str "kill" := by
    intro name hname hjson
    exact hname (Json.str.inj hjson)
  simp only [controlGrammar, List.mem_cons, List.not_mem_nil, or_false] at hsub
  unfold execute
  rw [hcommand]
  dsimp only
  rcases hsub with rfl | rfl | rfl | rfl | rfl
  · exact .inr ⟨hother (by decide), call_run_answers _ now i⟩
  · exact .inr ⟨hother (by decide), status_answers _ now⟩
  · exact .inr ⟨hother (by decide), .inl rfl⟩
  · obtain ⟨words, hwords⟩ := Option.isSome_iff_exists.1 htext
    exact .inr ⟨hother (by decide), .inl (congrArg HandlerRun.ending (call_echo _ now hwords))⟩
  · exact .inl ⟨rfl, rfl⟩

end ServiceState

/-- **Every vector is a command or refused, and every command has its call.**  A vector that is
refused has status 0 if it asks for a help text, and status 2 if not.  For a command that is read,
whatever the facts about the instance are:

* its call counts, and changes no other fact;
* it is known, and lacks no field;
* it returns `true` exactly if it is `kill`;
* so does the service end with it, whatever the client does that it writes to. -/
theorem Surroundings.commands_in_step (s : Surroundings) (argv : List Text) :
    match s.readCommand argv with
    | .error refusal =>
      refusal.status = 0 ∧ controlGrammar.AsksHelp argv.tail ∨
        refusal.status = 2 ∧ ¬ controlGrammar.AsksHelp argv.tail
    | .ok i =>
      ∀ (state : ServiceState) (now : Instant),
        let run := (state.execute now i).1
        (state.execute now i).2 = { state with commandsHandled := state.commandsHandled + 1 } ∧
        (∀ shown, run.ending ≠ .failed (.unknownCommand shown)) ∧
        (∀ field, run.ending ≠ .failed (.missingField field)) ∧
        (run.ending = .returned (.bool true) ↔ i.command = .str "kill") ∧
        ∀ (settings : ServeSettings) (client : Text) (weather : Weather),
          (Dispatch.conductThrough settings client weather run).terminates = true ↔
            i.command = .str "kill" := by
  cases hread : s.readCommand argv with
  | error refusal => exact Surroundings.status_of_readCommand hread
  | ok i =>
    intro state now run
    have hoffers : controlGrammar.Offers i := Grammar.offers_of_read hread
    have hends : ∀ (settings : ServeSettings) (client : Text) (weather : Weather),
        (Dispatch.conductThrough settings client weather run).terminates = true ↔
          i.command = .str "kill" := by
      intro settings client weather
      rw [Dispatch.conductThrough_terminates, ServiceState.execute_asksEnd_iff]
    refine ⟨state.execute_facts now i, ?_⟩
    obtain ⟨hending, hkill⟩ | ⟨hother, hending | ⟨fault, huntold, hending⟩⟩ :=
      state.execute_answers now hoffers
    · rw [show run.ending = _ from hending]
      exact ⟨nofun, nofun, iff_of_true rfl hkill, hends⟩
    · rw [show run.ending = _ from hending]
      refine ⟨nofun, nofun, iff_of_false ?_ hother, hends⟩
      simp
    · rw [show run.ending = _ from hending]
      obtain rfl | ⟨clock, rfl⟩ := huntold
      · exact ⟨nofun, nofun, iff_of_false nofun hother, hends⟩
      · exact ⟨nofun, nofun, iff_of_false nofun hother, hends⟩

end ControlChannel
