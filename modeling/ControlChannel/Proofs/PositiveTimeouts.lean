import ControlChannel.Proofs.LoadedSettings
import ControlChannel.Proofs.NotANumber

/-!
# Timeouts above zero

A timeout is the number that a variable writes, unless this is zero or below.  The comparison has no
answer for not-a-number, which is let through.

* `Timeout`, `Config.timeout` — the three timeouts among the settings;
* `Environment.seconds_fst` — what a variable makes of a timeout;
* `Surroundings.load_timeout_exactly` — **which timeouts are above zero**, and what they are;
* `Surroundings.nan_timeout_kept` — a timeout that is not above zero.
-/

namespace ControlChannel

/-- The timeouts among the settings. -/
inductive Timeout
  | close
  | connect
  | request

namespace Timeout

/-- The variable of a timeout. -/
def setting : Timeout → Text
  | close => variablePrefix ++ "CLOSE_TIMEOUT"
  | connect => variablePrefix ++ "CONNECT_TIMEOUT"
  | request => variablePrefix ++ "REQUEST_TIMEOUT"

/-- What a timeout is if its variable does not say. -/
def absent : Timeout → Double
  | close => twoSeconds
  | connect => fiveSeconds
  | request => fiveSeconds

/-- Without a word from the variables there is time. -/
theorem zero_lt_absent (t : Timeout) : (Double.zeroOf false).lt t.absent = true := by
  refine (Double.zero_lt_iff _).2 ?_
  cases t <;> decide +kernel

end Timeout

/-- A timeout among the settings. -/
def Config.timeout (config : Config) : Timeout → Double
  | .close => config.closeTimeout
  | .connect => config.connectTimeout
  | .request => config.requestTimeout

namespace Environment

/-- The number that a variable writes, if it is set and writes one. -/
def number? (e : Environment) (name : Text) : Option Double := (e.get? name).bind Double.read?

/-- What a variable makes of a timeout.  An empty one writes no number. -/
theorem seconds_fst (e : Environment) (name : Text) (absent : Double) :
    (e.seconds name absent).1
      = ((e.number? (variablePrefix ++ name)).filter (! ·.isAtMostZero)).getD absent := by
  unfold seconds nonempty? number?
  dsimp only
  cases e.get? (variablePrefix ++ name) with
  | none => rfl
  | some raw =>
    cases raw with
    | nil => rfl
    | cons c rest =>
      simp only [Option.filter_some, List.isEmpty_cons, Bool.not_false, if_true, Option.bind_some]
      cases Double.read? (c :: rest) with
      | none => rfl
      | some value =>
        rw [Option.filter_some]
        dsimp only
        cases value.isAtMostZero <;> rfl

/-- Whether a variable is set to a text that writes not-a-number. -/
def SetsNaN (e : Environment) (name : Text) : Prop :=
  ∃ raw, e.get? name = some raw ∧ Double.WritesNaN raw

theorem number?_eq_nan_iff (e : Environment) (name : Text) :
    e.number? name = some .nan ↔ e.SetsNaN name := by
  simp only [number?, Option.bind_eq_some_iff, Double.read?_eq_nan_iff, SetsNaN]

end Environment

namespace Surroundings

theorem load_timeout_eq [EnvFile.Reader] {s : Surroundings} {envFile? name? : Option Text}
    {config : Config} {environment : Environment} {notices : List Notice}
    (h : s.load envFile? name? = .ok (config, environment, notices)) (t : Timeout) :
    config.timeout t = ((environment.number? t.setting).filter (! ·.isAtMostZero)).getD t.absent := by
  obtain ⟨hclose, hconnect, hrequest⟩ := configure_times (load_eq_ok_iff.1 h).2
  cases t with
  | close => exact hclose.trans (Environment.seconds_fst _ _ _)
  | connect => exact hconnect.trans (Environment.seconds_fst _ _ _)
  | request => exact hrequest.trans (Environment.seconds_fst _ _ _)

/-- **When a timeout is above zero.**  Whenever settings are loaded, in any environment and with any
file of variables, then each timeout is above zero **exactly if its variable does not write
not-a-number**; and

* then it is the number that the variable writes, if there is one and it is above zero, and else the
  one for an absent variable;
* a variable that writes not-a-number makes this the timeout. -/
theorem load_timeout_exactly [EnvFile.Reader] {s : Surroundings} {envFile? name? : Option Text}
    {config : Config} {environment : Environment} {notices : List Notice}
    (h : s.load envFile? name? = .ok (config, environment, notices)) (t : Timeout) :
    ((Double.zeroOf false).lt (config.timeout t) = true ↔ ¬ environment.SetsNaN t.setting) ∧
      (¬ environment.SetsNaN t.setting →
        config.timeout t = ((environment.number? t.setting).filter
          ((Double.zeroOf false).lt ·)).getD t.absent) ∧
      (environment.SetsNaN t.setting → config.timeout t = .nan) := by
  rw [load_timeout_eq h t, ← Environment.number?_eq_nan_iff]
  cases environment.number? t.setting with
  | none => exact ⟨iff_of_true (Timeout.zero_lt_absent t) nofun, fun _ => rfl, nofun⟩
  | some value =>
    by_cases hnan : value = .nan
    · subst hnan
      exact ⟨iff_of_false Bool.false_ne_true (not_not_intro rfl), fun hnot => absurd rfl hnot,
        fun _ => rfl⟩
    · have hnot : some value ≠ some Double.nan := fun hsame => hnan (Option.some.inj hsame)
      rw [Option.filter_some, Option.filter_some, ← Double.zero_lt_of_ne_nan hnan]
      refine ⟨iff_of_true ?_ hnot, fun _ => rfl, fun hsame => absurd hsame hnot⟩
      split_ifs with habove
      · exact habove
      · exact Timeout.zero_lt_absent t

/-- One variable writes no number, and one a number below zero.  A file of variables says something
of the latter, and of the last one. -/
def timed : Surroundings where
  environment := [("HYPERMANGLE_CLOSE_TIMEOUT", "soon"), ("HYPERMANGLE_CONNECT_TIMEOUT", "-inf")]
  argv0 := "prog"
  temporary := "/tmp"
  ownHome := "/root"
  homes := []
  files :=
    { entries := [({ absolute := false, names := [".env"] }, .file (Utf8.encodeReplacing
        "HYPERMANGLE_CONNECT_TIMEOUT=nan\nHYPERMANGLE_REQUEST_TIMEOUT=' 1_0e-1 '\n"))] }

/-- The variables are read as the file leaves them: what it says of a variable that is set is not
heard. -/
theorem timed_timeouts :
    let after : Environment := [("HYPERMANGLE_CLOSE_TIMEOUT", "soon"),
      ("HYPERMANGLE_CONNECT_TIMEOUT", "-inf"), ("HYPERMANGLE_REQUEST_TIMEOUT", " 1_0e-1 ")]
    ∃ config notices, timed.load (some ".env") none = .ok (config, after, notices) ∧
      (∀ t, ¬ after.SetsNaN t.setting ∧ (Double.zeroOf false).lt (config.timeout t) = true) ∧
      config.timeout .close = twoSeconds ∧ config.timeout .connect = fiveSeconds ∧
      config.timeout .request = .ofInt 1 := by
  intro after
  have hnot : ∀ t : Timeout, ¬ after.SetsNaN t.setting := by
    intro t
    rw [← Environment.number?_eq_nan_iff]
    cases t <;> decide +kernel
  obtain ⟨config, notices, hload⟩ :=
    exists_load_eq_ok (show (timed.load (some ".env") none).toOption.map (·.2.1) = some after by
      decide +kernel)
  have hexactly := load_timeout_exactly hload
  refine ⟨config, notices, hload, fun t => ⟨hnot t, (hexactly t).1.2 (hnot t)⟩, ?_, ?_, ?_⟩
  · exact ((hexactly .close).2.1 (hnot .close)).trans (by decide +kernel)
  · exact ((hexactly .connect).2.1 (hnot .connect)).trans (by decide +kernel)
  · exact ((hexactly .request).2.1 (hnot .request)).trans (by decide +kernel)

/-- Not-a-number for a timeout. -/
def timeless : Surroundings :=
  { timed with environment := [("HYPERMANGLE_CLOSE_TIMEOUT", "nan")] }

/-- No comparison holds of not-a-number, and so this is not taken for zero or below. -/
theorem nan_timeout_kept :
    ∃ config environment notices,
      timeless.load none (some "svc") = .ok (config, environment, notices) ∧
      config.timeout .close = .nan ∧
      (Double.zeroOf false).lt (config.timeout .close) = false ∧ notices = [] :=
  ⟨_, _, _, rfl, rfl, rfl, rfl⟩

end Surroundings

end ControlChannel
