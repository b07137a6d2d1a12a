import ControlChannel.Command
import Mathlib.Data.List.TakeWhile

/-!
# Words that begin with no dash

No switch can be meant by an argument that does not begin with a dash, whatever else is in it.

* `Text.IsPlain` — a word that begins with no dash; the empty one is such a word;
* `Level.marks_plain`, `Level.fit_plain` — such arguments are all taken for the operand of a level;
* `Level.takeAll_congr` — the bound on the steps of a match never decides anything;
* `Level.fit_nil`, `Level.fit_surplus` — a level without arguments, and one without an operand;
* `Grammar.read_plain`, `Surroundings.readCommand_echo` — **a command gets its plain words as they
  are**;
* `Grammar.Says`, `Grammar.read_of_said`, `Grammar.read_of_unsaid` — the command that plain words
  say in a grammar, and that words which say none are refused.
-/

namespace ControlChannel

/-- Begins with no dash. -/
def Text.IsPlain (t : Text) : Prop := t.head? ≠ some Level.dash

instance (t : Text) : Decidable t.IsPlain := inferInstanceAs (Decidable (t.head? ≠ some Level.dash))

theorem Text.IsPlain.ne_dashes {t : Text} (h : t.IsPlain) : t ≠ ("--" : Text) := by
  rintro rfl
  exact h rfl

namespace Level

/-- An argument that begins with no dash is a word, even the empty one. -/
theorem mark_plain (l : Level) {argument : Text} (h : argument.IsPlain) :
    l.mark argument = .ok .word := by
  rw [mark]
  exact if_pos (by simp [Text.IsPlain] at h; simp [h])

/-- Arguments that begin with no dash are all words. -/
theorem marks_plain (l : Level) {arguments : List Text} (h : ∀ word ∈ arguments, word.IsPlain) :
    l.marks arguments = .ok (arguments.map fun word => (.word, word)) := by
  induction arguments with
  | nil => rfl
  | cons first others ih =>
    obtain ⟨hfirst, hothers⟩ := List.forall_mem_cons.1 h
    rw [marks, if_neg (Text.IsPlain.ne_dashes hfirst), l.mark_plain hfirst, ih hothers]
    rfl

/-- No word is taken for an option. -/
theorem isOption_word (word : Text) : isOption (.word, word) = false := rfl

/-- Words are no switches, all of them. -/
theorem not_isOption_of_mem {words : List Text} {marked : Mark × Text}
    (h : marked ∈ words.map fun word => (Mark.word, word)) : (! isOption marked) = true := by
  obtain ⟨word, _, rfl⟩ := List.mem_map.1 h
  rfl

theorem map_snd_words (words : List Text) :
    (words.map fun word => (Mark.word, word)).map (·.2) = words := by
  rw [List.map_map]
  exact List.map_id _

/-- An operand of either kind takes all of some words, if there is one. -/
theorem takeOperand_plain (operand : Operand) {words : List Text} (hne : words ≠ [])
    (h : ∀ word ∈ words, word.IsPlain) :
    takeOperand operand (words.map fun word => (.word, word)) = some (words, []) := by
  have hdashes : ("--" : Text) ∉ words := fun hmem => Text.IsPlain.ne_dashes (h _ hmem) rfl
  obtain ⟨first, others, rfl⟩ := List.exists_cons_of_ne_nil hne
  unfold takeOperand
  rw [List.map_cons, List.dropWhile_cons_of_neg (by simp)]
  dsimp only
  rw [if_pos rfl, ← List.map_cons (f := fun word => (Mark.word, word))]
  cases operand with
  | command name =>
    dsimp only
    rw [map_snd_words]
  | words name =>
    dsimp only
    rw [List.takeWhile_eq_self_iff.2 fun _ => not_isOption_of_mem,
      List.dropWhile_eq_nil_iff.2 fun _ => not_isOption_of_mem, map_snd_words,
      List.erase_of_not_mem hdashes]

theorem takeAll_nil (l : Level) (fuel : Nat) (m : Matched) : l.takeAll fuel m [] = .ok m := by
  cases fuel <;> rfl

/-- What an operand leaves of marked arguments is less than they were. -/
theorem offer_length {l : Level} {m after : Matched} {first : Mark × Text}
    {others rest : List (Mark × Text)} (hword : isOption first = false)
    (h : l.offer m (first :: others) = some (after, rest)) : rest.length ≤ others.length := by
  unfold offer at h
  split at h
  · obtain ⟨⟨taken, left⟩, htaken, hafter⟩ := Option.map_eq_some_iff.1 h
    cases hafter
    unfold takeOperand at htaken
    split at htaken
    · cases htaken
    · split_ifs at htaken
      split at htaken
      · cases htaken
        simp
      · cases htaken
        rw [List.dropWhile_cons_of_pos (by simp [hword])]
        exact List.length_dropWhile_le _ _
  · cases h

/-- **The bound on the steps never decides anything**: any two that cover the arguments give the
same. -/
theorem takeAll_congr (l : Level) {fuel more : Nat} (m : Matched) {marked : List (Mark × Text)}
    (h : marked.length ≤ fuel) (hmore : marked.length ≤ more) :
    l.takeAll fuel m marked = l.takeAll more m marked := by
  induction fuel generalizing more m marked with
  | zero =>
    obtain rfl : marked = [] := List.eq_nil_of_length_eq_zero (by omega)
    rw [takeAll_nil, takeAll_nil]
  | succ fuel ih =>
    cases marked with
    | nil => rw [takeAll_nil, takeAll_nil]
    | cons first others =>
      obtain ⟨more, rfl⟩ := Nat.exists_eq_add_of_le' (Nat.lt_of_lt_of_le (Nat.succ_pos _) hmore)
      simp only [List.length_cons] at h hmore
      rw [takeAll, takeAll]
      cases hoption : isOption first with
      | true =>
        simp only [if_true]
        cases l.takeSwitch m first with
        | error stop => rfl
        | ok m => exact ih m (by omega) (by omega)
      | false =>
        simp only [Bool.false_eq_true, if_false]
        cases hoffer : l.offer m (first :: others) with
        | some taken =>
          have hshorter := offer_length hoption hoffer
          exact ih _ (by omega) (by omega)
        | none =>
          have hshorter : ((first :: others).dropWhile (! isOption ·)).length ≤ others.length := by
            rw [List.dropWhile_cons_of_pos (by simp [hoption])]
            exact List.length_dropWhile_le _ _
          exact ih _ (by omega) (by omega)

/-- Words are offered to the operand of a level together, or left over together. -/
theorem takeAll_words (l : Level) (fuel : Nat) (m : Matched) {words : List Text} (hne : words ≠ []) :
    l.takeAll (fuel + 1) m (words.map fun word => (.word, word)) =
      match l.offer m (words.map fun word => (.word, word)) with
      | some (m, rest) => l.takeAll fuel m rest
      | none => .ok { m with extras := m.extras ++ words } := by
  obtain ⟨first, others, rfl⟩ := List.exists_cons_of_ne_nil hne
  rw [List.map_cons, takeAll, isOption_word, if_neg Bool.false_ne_true,
    ← List.map_cons (f := fun word => (Mark.word, word))]
  cases l.offer m ((first :: others).map fun word => (Mark.word, word)) with
  | some taken => rfl
  | none =>
    dsimp only
    rw [List.takeWhile_eq_self_iff.2 fun _ => not_isOption_of_mem,
      List.dropWhile_eq_nil_iff.2 fun _ => not_isOption_of_mem, map_snd_words, takeAll_nil]

/-- A match of words that begin with no dash, with as many steps as there are words. -/
theorem fit_words (l : Level) {words : List Text} (h : ∀ word ∈ words, word.IsPlain) :
    l.fit words = (do
      let m ← l.takeAll words.length {} (words.map fun word => (.word, word))
      match l.operand, m.operand with
      | some operand, none => .error (.fault (.missing operand.name))
      | _, _ => .ok m) := by
  let marked : List (Mark × Text) := words.map fun word => (.word, word)
  have hsteps : l.takeAll (2 * marked.length) {} marked = l.takeAll words.length {} marked := by
    apply l.takeAll_congr
    · omega
    · simp [marked]
  rw [← hsteps, fit, l.marks_plain h]
  rfl

/-- Without arguments a level lacks the operand that it has. -/
theorem fit_nil (l : Level) :
    l.fit [] = match l.operand with
      | some operand => .error (.fault (.missing operand.name))
      | none => .ok {} := by
  rw [l.fit_words (List.forall_mem_nil _), List.map_nil, takeAll_nil]
  cases l.operand <;> rfl

/-- **Words that begin with no dash are the operand of a level that has one**, and nothing is left
over. -/
theorem fit_plain {l : Level} {operand : Operand} (hoperand : l.operand = some operand)
    {words : List Text} (hne : words ≠ []) (h : ∀ word ∈ words, word.IsPlain) :
    l.fit words = .ok { operand := some words } := by
  have hoffer : l.offer {} (words.map fun word => (Mark.word, word))
      = some ({ operand := some words }, []) := by
    rw [offer, hoperand]
    dsimp only
    rw [takeOperand_plain operand hne h]
    rfl
  obtain ⟨fuel, hfuel⟩ := Nat.exists_eq_add_of_le' (List.length_pos_iff.2 hne)
  rw [l.fit_words h, hfuel, l.takeAll_words fuel {} hne, hoffer]
  dsimp only
  rw [takeAll_nil, hoperand]
  rfl

/-- Words that begin with no dash are left over by a level without an operand. -/
theorem fit_surplus {l : Level} (hoperand : l.operand = none) {words : List Text} (hne : words ≠ [])
    (h : ∀ word ∈ words, word.IsPlain) : l.fit words = .ok { extras := words } := by
  have hoffer : l.offer {} (words.map fun word => (Mark.word, word)) = none := by
    rw [offer, hoperand]
  obtain ⟨fuel, hfuel⟩ := Nat.exists_eq_add_of_le' (List.length_pos_iff.2 hne)
  rw [l.fit_words h, hfuel, l.takeAll_words fuel {} hne, hoffer, hoperand]
  rfl

end Level

namespace Grammar

variable {g : Grammar} {outer : Operand} {words : List Text}

/-- What plain words come to if a command has their first one for its name. -/
theorem read_named (houter : g.outer.operand = some outer) {s : Subcommand}
    (hs : g.subcommands.find? (·.name = s.name) = some s) (columns : Nat) (program : Text)
    (h : ∀ word ∈ s.name :: words, word.IsPlain) :
    g.read columns program (s.name :: words) =
      match s.level.fit words with
      | .ok m =>
        if m.extras.isEmpty then .ok (invocationOf s m)
        else .error (faultAt columns program g.outer (.unrecognized m.extras))
      | .error .help =>
        .error
          { text := Layout.help columns (Layout.programAt program s.name) s.level none []
            status := 0 }
      | .error (.fault fault) =>
        .error (faultAt columns (Layout.programAt program s.name) s.level fault) := by
  rw [read, Level.fit_plain houter (List.cons_ne_nil _ _) h]
  dsimp only [Option.getD_some]
  rw [readSubcommand, List.head?_cons, Option.getD_some, hs]
  dsimp only
  rw [List.drop_one, List.tail_cons]
  cases s.level.fit words with
  | ok m => rfl
  | error stop => cases stop <;> rfl

/-- **A command of a grammar gets its plain words as they are.** -/
theorem read_plain (houter : g.outer.operand = some outer) {s : Subcommand}
    (hs : g.subcommands.find? (·.name = s.name) = some s) {operand : Operand}
    (hname : s.name.IsPlain) (hoperand : s.level.operand = some operand) (hne : words ≠ [])
    (h : ∀ word ∈ words, word.IsPlain) (columns : Nat) (program : Text) :
    g.read columns program (s.name :: words) = .ok (invocationOf s { operand := some words }) := by
  rw [read_named houter hs columns program (List.forall_mem_cons.2 ⟨hname, h⟩),
    Level.fit_plain hoperand hne h]
  rfl

/-- The command that words say in a grammar: its name, with more words exactly if it takes any. -/
def Says (g : Grammar) (words : List Text) (i : Invocation) : Prop :=
  ∃ s others, words = s.name :: others ∧ g.subcommands.find? (·.name = s.name) = some s ∧
    match s.level.operand with
    | none => others = [] ∧ i = invocationOf s {}
    | some _ => others ≠ [] ∧ i = invocationOf s { operand := some others }

/-- **Plain words that say a command are read as it.** -/
theorem read_of_said (houter : g.outer.operand = some outer) {i : Invocation} (hsaid : g.Says words i)
    (h : ∀ word ∈ words, word.IsPlain) (columns : Nat) (program : Text) :
    g.read columns program words = .ok i := by
  obtain ⟨s, others, rfl, hs, hothers⟩ := hsaid
  obtain ⟨hname, hplain⟩ := List.forall_mem_cons.1 h
  cases hoperand : s.level.operand with
  | none =>
    rw [hoperand] at hothers
    obtain ⟨rfl, rfl⟩ := hothers
    rw [read_named houter hs columns program h, Level.fit_nil, hoperand]
    rfl
  | some operand =>
    rw [hoperand] at hothers
    obtain ⟨hne, rfl⟩ := hothers
    exact read_plain houter hs hname hoperand hne hplain columns program

/-- **Plain words that say no command are refused as a usage fault.**  Nothing is said, no command
has the name, it lacks the words that it takes, or it takes none. -/
theorem read_of_unsaid (houter : g.outer.operand = some outer) (hsaid : ¬ ∃ i, g.Says words i)
    (h : ∀ word ∈ words, word.IsPlain) (columns : Nat) (program : Text) :
    ∃ refusal, g.read columns program words = .error refusal ∧ refusal.status = 2 := by
  cases words with
  | nil =>
    rw [read, Level.fit_nil, houter]
    exact ⟨_, rfl, rfl⟩
  | cons named others =>
    cases hfind : g.subcommands.find? (·.name = named) with
    | none =>
      rw [read, Level.fit_plain houter (List.cons_ne_nil _ _) h]
      dsimp only [Option.getD_some]
      rw [readSubcommand, List.head?_cons, Option.getD_some, hfind]
      exact ⟨_, rfl, rfl⟩
    | some s =>
      obtain rfl : s.name = named := by simpa using List.find?_some hfind
      have hplain := (List.forall_mem_cons.1 h).2
      rw [read_named houter hfind columns program h]
      cases hoperand : s.level.operand with
      | none =>
        have hne : others ≠ [] := by
          rintro rfl
          exact hsaid ⟨_, s, [], rfl, hfind, by rw [hoperand]; exact ⟨rfl, rfl⟩⟩
        rw [Level.fit_surplus hoperand hne hplain]
        dsimp only
        rw [if_neg (by simpa using hne)]
        exact ⟨_, rfl, rfl⟩
      | some operand =>
        have hnone : others = [] := by
          by_contra hne
          exact hsaid ⟨_, s, others, rfl, hfind, by rw [hoperand]; exact ⟨hne, rfl⟩⟩
        rw [hnone, Level.fit_nil, hoperand]
        exact ⟨_, rfl, rfl⟩

end Grammar

/-- The words of `echo` reach it as they are. -/
theorem Surroundings.readCommand_echo (s : Surroundings) (argv0 : Text) {words : List Text}
    (hne : words ≠ []) (h : ∀ word ∈ words, word.IsPlain) :
    s.readCommand (argv0 :: "echo" :: words) = .ok { command := .str "echo", text := some words } :=
  Grammar.read_plain (g := controlGrammar) rfl
    (s := { name := "echo", help := "Send text back from the instance"
            level := { switches := [helpSwitch], operand := some (.words "text") } })
    (by decide) (by decide) rfl hne h _ _

end ControlChannel
