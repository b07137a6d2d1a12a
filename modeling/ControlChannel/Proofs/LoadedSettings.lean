import ControlChannel.Config
import ControlChannel.EnvFile.Grammar
import Mathlib.Data.List.Induction
import Mathlib.Data.List.Nodup
import Mathlib.Tactic.SplitIfs

/-!
# Settings and the environment that they are loaded in

The file of variables is read, its references are replaced, and what is bound to a value is added
where no variable is set.  A second load finds every such variable set, and adds nothing.

* `EnvFile.Gives` — what a file gives a variable: **the value of its last binding for the name**,
  with what stands in the environment or in the bindings before in place of each reference;
* `EnvFile.value_resolve_iff` — the bindings with their references replaced hold just this;
* `Environment.offer`, `Environment.get?_of_offer` — one binding is offered to the environment;
* `Environment.get?_adopt_iff`, `Environment.adopt_again` — all bindings of a file are, once and
  twice;
* `Surroundings.bindingsAt`, `Surroundings.withFile_eq` — the file is read, then adopted;
* `Surroundings.load_eq_ok_iff`, `Surroundings.configure_times` — then the settings are taken from
  the environment;
* `Surroundings.load_again` — what the variables are after a load, and that **a second load changes
  nothing**.
-/

namespace ControlChannel

/-! ### The bindings of a file with their references replaced -/

namespace EnvFile

/-- What a file gives a variable: the value of its last binding for the name, with each reference
replaced by what stands in the environment, else in the bindings before. -/
def Gives [Reader] (e : Environment) (file : List Binding) (name value : Text) : Prop :=
  ∃ before raw after, file = before ++ { name, value := some raw } :: after ∧
    (∀ b ∈ after, b.name ≠ name) ∧ value = Reader.expand (known e (resolve e before)) raw

/-- A binding that stands in a file is the last one, or stands before it. -/
theorem concat_eq_iff {file before after : List Binding} {b here : Binding} :
    file ++ [b] = before ++ here :: after ↔
      (before = file ∧ here = b ∧ after = []) ∨
        ∃ front, after = front ++ [b] ∧ file = before ++ here :: front := by
  constructor
  · intro h
    obtain rfl | ⟨front, last, rfl⟩ := List.eq_nil_or_concat after
    · obtain ⟨hfile, hb⟩ := List.append_inj' h rfl
      exact .inl ⟨hfile.symm, (List.singleton_inj.1 hb).symm, rfl⟩
    · rw [List.concat_eq_append, ← List.cons_append, ← List.append_assoc] at h
      obtain ⟨hfile, hb⟩ := List.append_inj' h rfl
      exact .inr ⟨front, by rw [List.concat_eq_append, hb], hfile⟩
  · rintro (⟨rfl, rfl, rfl⟩ | ⟨front, rfl, rfl⟩)
    · rfl
    · simp

/-- With one more binding at its end, a file gives its name what this binding says, and every other
name what it gave before. -/
theorem gives_concat_iff [Reader] (e : Environment) (file : List Binding) (b : Binding)
    (name value : Text) :
    Gives e (file ++ [b]) name value ↔
      if b.name = name then
        ∃ raw, b.value = some raw ∧ value = Reader.expand (known e (resolve e file)) raw
      else Gives e file name value := by
  simp only [Gives, concat_eq_iff]
  split_ifs with hname
  · constructor
    · rintro ⟨before, raw, after, ⟨rfl, rfl, rfl⟩ | ⟨front, rfl, -⟩, hafter, hvalue⟩
      · exact ⟨raw, rfl, hvalue⟩
      · exact absurd hname (hafter b (by simp))
    · rintro ⟨raw, hraw, hvalue⟩
      exact ⟨file, raw, [], .inl ⟨rfl, by rw [← hname, ← hraw], rfl⟩, by simp, hvalue⟩
  · constructor
    · rintro ⟨before, raw, after, ⟨rfl, rfl, rfl⟩ | ⟨front, rfl, hfile⟩, hafter, hvalue⟩
      · exact absurd rfl hname
      · exact ⟨before, raw, front, hfile, fun other hother => hafter other (by simp [hother]),
          hvalue⟩
    · rintro ⟨before, raw, after, hfile, hafter, hvalue⟩
      refine ⟨before, raw, after ++ [b], .inr ⟨after, rfl, hfile⟩, fun other hother => ?_, hvalue⟩
      obtain hother | hother := List.mem_append.1 hother
      · exact hafter other hother
      · rwa [List.mem_singleton.1 hother]

theorem assign_nodup {bound : List Binding} (h : (bound.map (·.name)).Nodup) (b : Binding) :
    ((assign bound b).map (·.name)).Nodup := by
  unfold assign
  split_ifs with hbound
  · have hnames : (bound.map fun old => if old.name = b.name then b else old).map (·.name)
        = bound.map (·.name) := by
      rw [List.map_map]
      refine List.map_congr_left fun old _ => ?_
      dsimp only [Function.comp]
      split_ifs with hsame
      · exact hsame.symm
      · rfl
    rwa [hnames]
  · rw [List.map_append, List.map_singleton]
    refine List.Nodup.append h (List.nodup_singleton _) fun name hname hb => ?_
    obtain ⟨old, hold, rfl⟩ := List.mem_map.1 hname
    exact hbound (List.any_eq_true.2 ⟨old, hold, decide_eq_true (List.mem_singleton.1 hb)⟩)

/-- Where a binding takes the place of those for its name, it is found under this name. -/
theorem find?_replace (bound : List Binding) (b : Binding) (name : Text) :
    (bound.map fun old => if old.name = b.name then b else old).find? (·.name = name)
      = if b.name = name ∧ bound.any (·.name = b.name) then some b
        else bound.find? (·.name = name) := by
  induction bound with
  | nil => simp
  | cons old bound ih =>
    rw [List.map_cons, List.any_cons]
    by_cases hold : old.name = b.name
    · by_cases hname : b.name = name
      · simp [hold, hname]
      · have hother : ¬ old.name = name := hold ▸ hname
        rw [if_pos hold, List.find?_cons_of_neg (by simpa using hname), ih,
          List.find?_cons_of_neg (by simpa using hother), if_neg fun h => hname h.1,
          if_neg fun h => hname h.1]
    · rw [if_neg hold, List.find?_cons, List.find?_cons, ih]
      by_cases hhere : old.name = name
      · have hname : ¬ b.name = name := fun h => hold (hhere.trans h.symm)
        simp [hhere, hname]
      · simp [hhere, hold]

/-- A name that is given a value has that, and every other one what it had. -/
theorem find?_assign (bound : List Binding) (b : Binding) (name : Text) :
    (assign bound b).find? (·.name = name)
      = if b.name = name then some b else bound.find? (·.name = name) := by
  unfold assign
  split_ifs with hbound hname hname
  · rw [find?_replace, if_pos ⟨hname, hbound⟩]
  · rw [find?_replace, if_neg fun h => hname h.1]
  · have hnone : bound.find? (·.name = name) = none := by
      rw [List.find?_eq_none]
      exact fun old hold hsame =>
        hbound (List.any_eq_true.2 ⟨old, hold, by simpa [hname] using hsame⟩)
    rw [List.find?_append, hnone]
    simp [hname]
  · rw [List.find?_append]
    simp [hname]

/-- In a list with different names each binding is found under its name. -/
theorem find?_of_mem {bound : List Binding} (hnames : (bound.map (·.name)).Nodup) {b : Binding}
    (h : b ∈ bound) : bound.find? (·.name = b.name) = some b := by
  induction bound with
  | nil => cases h
  | cons first bound ih =>
    rw [List.map_cons, List.nodup_cons] at hnames
    obtain rfl | hlater := List.mem_cons.1 h
    · exact List.find?_cons_of_pos (by simp)
    · have hother : first.name ≠ b.name := fun hsame =>
        hnames.1 (hsame ▸ List.mem_map_of_mem hlater)
      rw [List.find?_cons_of_neg (by simpa using hother), ih hnames.2 hlater]

theorem resolve_concat [Reader] (e : Environment) (file : List Binding) (b : Binding) :
    resolve e (file ++ [b])
      = assign (resolve e file)
          { b with value := b.value.map (Reader.expand (known e (resolve e file))) } := by
  unfold resolve
  rw [List.foldl_append]
  rfl

theorem resolve_nodup [Reader] (e : Environment) (file : List Binding) :
    ((resolve e file).map (·.name)).Nodup := by
  induction file using List.reverseRecOn with
  | nil => exact List.nodup_nil
  | append_singleton file b ih =>
    rw [resolve_concat]
    exact assign_nodup ih _

/-- **The bindings with their references replaced** hold what the file gives. -/
theorem value_resolve_iff [Reader] (e : Environment) (file : List Binding) (name value : Text) :
    ((resolve e file).find? (·.name = name)).bind (·.value) = some value
      ↔ Gives e file name value := by
  induction file using List.reverseRecOn with
  | nil => exact iff_of_false nofun fun ⟨_, _, _, h, _⟩ => by simp at h
  | append_singleton file b ih =>
    rw [resolve_concat, find?_assign, gives_concat_iff]
    dsimp only
    split_ifs with hname
    · rw [Option.bind_some, Option.map_eq_some_iff]
      exact exists_congr fun raw => and_congr_right fun _ => eq_comm
    · exact ih

/-- A name that a file gives a value in one environment, it gives one in every environment. -/
theorem Gives.elsewhere [Reader] {e : Environment} {file : List Binding} {name value : Text}
    (h : Gives e file name value) (e' : Environment) : ∃ value', Gives e' file name value' := by
  obtain ⟨before, raw, after, hfile, hafter, -⟩ := h
  exact ⟨_, before, raw, after, hfile, hafter, rfl⟩

end EnvFile

/-! ### Adopting a file -/

namespace Environment

/-- A variable that is not set is set behind all others. -/
theorem set_of_unset {e : Environment} {name : Text} (h : e.get? name = none) (value : Text) :
    e.set name value = e ++ [(name, Utf8.reread value)] := by
  have hunset : e.unset name = e := by
    refine List.filter_eq_self.2 fun entry hentry => ?_
    have hne := List.lookup_eq_none_iff.1 h entry hentry
    exact decide_eq_true (Ne.symm (bne_iff_ne.1 hne))
  rw [set, hunset]

/-- A binding is offered to the environment: it is taken if it has a value and its variable is not
set. -/
def offer (e : Environment) (b : EnvFile.Binding) : Except SetFault Environment :=
  match e.get? b.name, b.value with
  | none, some value => e.set? b.name value
  | _, _ => .ok e

theorem adopt_eq [EnvFile.Reader] (e : Environment) (file : List EnvFile.Binding) :
    e.adopt file = (EnvFile.resolve e file).foldlM offer e := rfl

/-- **One binding** adds the variable that it names, if it has a value, and changes none that is
set. -/
theorem get?_of_offer {e e' : Environment} {b : EnvFile.Binding} (h : e.offer b = .ok e')
    (name : Text) :
    e'.get? name = (e.get? name).or (if b.name = name then b.value.map Utf8.reread else none) := by
  unfold offer at h
  split at h
  · rename_i value hunset hvalue
    unfold set? at h
    split_ifs at h
    cases h
    rw [set_of_unset hunset, hvalue, get?, List.lookup_append, List.lookup_singleton]
    simp only [beq_iff_eq, eq_comm (a := name), Option.map_some, get?]
  · rename_i hkept
    cases h
    -- what is offered finds its variable set, or has no value
    split_ifs with hname
    · cases hset : e.get? b.name with
      | none =>
        cases hvalue : b.value with
        | none => simp
        | some value => exact absurd hvalue (hkept value hset)
      | some value => rw [← hname, hset, Option.some_or]
    · rw [Option.or_none]

/-- All bindings of a list with different names are offered, one after the other. -/
theorem get?_of_foldlM {bindings : List EnvFile.Binding} (hnames : (bindings.map (·.name)).Nodup)
    {e e' : Environment} (h : bindings.foldlM offer e = .ok e') (name : Text) :
    e'.get? name = (e.get? name).or
      (((bindings.find? (·.name = name)).bind (·.value)).map Utf8.reread) := by
  induction bindings generalizing e with
  | nil =>
    cases h
    simp
  | cons b bindings ih =>
    rw [List.map_cons, List.nodup_cons] at hnames
    rw [List.foldlM_cons] at h
    cases hoffer : e.offer b with
    | error fault =>
      rw [hoffer] at h
      cases h
    | ok next =>
      rw [hoffer] at h
      rw [ih hnames.2 h, get?_of_offer hoffer, Option.or_assoc]
      congr 1
      by_cases hname : b.name = name
      · have hnone : bindings.find? (·.name = name) = none := by
          rw [List.find?_eq_none]
          rintro other hother hsame
          refine hnames.1 (List.mem_map.2 ⟨other, hother, ?_⟩)
          rw [of_decide_eq_true hsame, hname]
        rw [hnone, if_pos hname, List.find?_cons_of_pos (by simpa using hname)]
        simp
      · rw [if_neg hname, List.find?_cons_of_neg (by simpa using hname), Option.none_or]

/-- **The variables after a file is adopted** are those that were set, and what the file gives to
those that were not. -/
theorem get?_adopt_iff [EnvFile.Reader] {e e' : Environment} {file : List EnvFile.Binding}
    (h : e.adopt file = .ok e') (name value : Text) :
    e'.get? name = some value ↔
      e.get? name = some value ∨
        e.get? name = none ∧ ∃ given, EnvFile.Gives e file name given ∧
          value = Utf8.reread given := by
  rw [adopt_eq] at h
  rw [get?_of_foldlM (EnvFile.resolve_nodup e file) h, Option.or_eq_some_iff,
    Option.map_eq_some_iff]
  refine or_congr_right (and_congr_right fun _ => exists_congr fun given => ?_)
  rw [EnvFile.value_resolve_iff, eq_comm (a := value)]

/-- A list of bindings that each leave the environment as it is leaves it so. -/
theorem foldlM_of_kept {e : Environment} {bindings : List EnvFile.Binding}
    (h : ∀ b ∈ bindings, e.offer b = .ok e) : bindings.foldlM offer e = .ok e := by
  induction bindings with
  | nil => rfl
  | cons b bindings ih =>
    rw [List.foldlM_cons, h b List.mem_cons_self]
    exact ih fun other hother => h other (List.mem_cons_of_mem _ hother)

/-- **A file that is adopted again adds nothing.** -/
theorem adopt_again [EnvFile.Reader] {e e' : Environment} {file : List EnvFile.Binding}
    (h : e.adopt file = .ok e') : e'.adopt file = .ok e' := by
  rw [adopt_eq]
  refine foldlM_of_kept fun b hb => ?_
  unfold offer
  split
  · rename_i value hunset hvalue
    -- what the file gives now, it gave before, so that the variable is set
    have hfound : ((EnvFile.resolve e' file).find? (·.name = b.name)).bind (·.value) = some value := by
      rw [EnvFile.find?_of_mem (EnvFile.resolve_nodup e' file) hb, Option.bind_some, hvalue]
    obtain ⟨given, hgiven⟩ := ((EnvFile.value_resolve_iff e' file b.name value).1 hfound).elsewhere e
    have hset : ∃ kept, e'.get? b.name = some kept := by
      cases hbefore : e.get? b.name with
      | none => exact ⟨_, (get?_adopt_iff h _ _).2 (.inr ⟨hbefore, given, hgiven, rfl⟩)⟩
      | some kept => exact ⟨kept, (get?_adopt_iff h _ _).2 (.inl hbefore)⟩
    obtain ⟨kept, hkept⟩ := hset
    rw [hunset] at hkept
    cases hkept
  · rfl

/-- A variable that is set is still set, to the same, after a file is adopted. -/
theorem get?_of_adopt [EnvFile.Reader] {e e' : Environment} {file : List EnvFile.Binding}
    (h : e.adopt file = .ok e') {name value : Text} (hset : e.get? name = some value) :
    e'.get? name = some value :=
  (get?_adopt_iff h name value).2 (.inl hset)

end Environment

/-! ### Loading the settings -/

namespace Surroundings

section Results

variable {ε ε' α β : Type}

/-- A sequence of two computations gives what the second one gives for a result of the first. -/
theorem ok_of_bind_iff {result : Except ε α} {next : α → Except ε β} {y : β} :
    (result >>= next) = .ok y ↔ ∃ x, result = .ok x ∧ next x = .ok y := by
  cases result <;> simp [bind, Except.bind]

theorem ok_of_mapError_iff {result : Except ε α} {f : ε → ε'} {x : α} :
    result.mapError f = .ok x ↔ result = .ok x := by
  cases result <;> simp [Except.mapError]

end Results

/-- The bindings of the file of variables, none if there is no such file or it is turned off. -/
def bindingsAt [EnvFile.Reader] (s : Surroundings) (path? : Option Text) :
    Except ConfigFault (List EnvFile.Binding) :=
  match path?.filter (! ·.isEmpty) with
  | none => .ok []
  | some path => do
    let found ← (s.files.find? (Path.ofText path)).mapError .system
    if found.isNone || s.environment.disablesFile then return []
    else
      match s.files.reach path with
      | .ok (.file content) =>
        return EnvFile.Reader.bindings (← (Utf8.decode content).mapError .undecodable)
      | _ => return []

/-- **The file is read, then adopted.** -/
theorem withFile_eq [EnvFile.Reader] (s : Surroundings) (path? : Option Text) :
    s.withFile path? = (s.bindingsAt path? >>= fun file =>
      (s.environment.adopt file).mapError .unsettable) := by
  unfold withFile bindingsAt
  cases path?.filter (! ·.isEmpty) with
  | none => rfl
  | some path =>
    cases hfind : s.files.find? (Path.ofText path) with
    | error fault => simp [hfind, Except.mapError, bind, Except.bind]
    | ok found =>
      simp only [hfind, Except.mapError, bind, Except.bind]
      split_ifs
      · rfl
      · cases hreach : s.files.reach path with
        | error fault => rfl
        | ok node =>
          cases node with
          | file content =>
            dsimp only
            cases Utf8.decode content with
            | error fault => rfl
            | ok text => rfl
          | _ => rfl

theorem withFile_eq_ok_iff [EnvFile.Reader] {s : Surroundings} {path? : Option Text}
    {e : Environment} :
    s.withFile path? = .ok e ↔
      ∃ file, s.bindingsAt path? = .ok file ∧ s.environment.adopt file = .ok e := by
  rw [withFile_eq, ok_of_bind_iff]
  exact exists_congr fun file => and_congr_right fun _ => ok_of_mapError_iff

/-- Where a file was read, it is read again, or it is turned off meanwhile. -/
theorem bindingsAt_again [EnvFile.Reader] {s : Surroundings} {path? : Option Text}
    {file : List EnvFile.Binding} (h : s.bindingsAt path? = .ok file) {e : Environment}
    (hoff : s.environment.disablesFile = true → e.disablesFile = true) :
    ({ s with environment := e }).bindingsAt path? = .ok file ∨
      ({ s with environment := e }).bindingsAt path? = .ok [] := by
  cases he : e.disablesFile with
  | true =>
    refine .inr ?_
    unfold bindingsAt at h ⊢
    cases hpath : path?.filter (! ·.isEmpty) with
    | none => rfl
    | some path =>
      rw [hpath] at h
      dsimp only at h ⊢
      cases hfind : s.files.find? (Path.ofText path) with
      | error fault =>
        rw [hfind] at h
        cases h
      | ok found => simp [Except.mapError, bind, Except.bind, he, pure, Except.pure]
  | false =>
    refine .inl ?_
    have hon : s.environment.disablesFile = false := by
      cases hs : s.environment.disablesFile with
      | true => exact absurd (hoff hs) (by simp [he])
      | false => rfl
    unfold bindingsAt at h ⊢
    simpa only [hon, he] using h

/-- The times among the settings are those that the variables set. -/
theorem configure_times {s : Surroundings} {name? : Option Text} {config : Config}
    {notices : List Notice} (h : s.configure name? = .ok (config, notices)) :
    config.closeTimeout = (s.environment.seconds "CLOSE_TIMEOUT" twoSeconds).1 ∧
      config.connectTimeout = (s.environment.seconds "CONNECT_TIMEOUT" fiveSeconds).1 ∧
      config.requestTimeout = (s.environment.seconds "REQUEST_TIMEOUT" fiveSeconds).1 := by
  unfold configure at h
  simp only [bind, Except.bind, pure, Except.pure] at h
  -- whether the paths come from variables or not, the times are the same
  repeat' split at h
  all_goals cases h
  all_goals exact ⟨rfl, rfl, rfl⟩

theorem load_eq_ok_iff [EnvFile.Reader] {s : Surroundings} {envFile? name? : Option Text}
    {config : Config} {environment : Environment} {notices : List Notice} :
    s.load envFile? name? = .ok (config, environment, notices) ↔
      s.withFile envFile? = .ok environment ∧
        ({ s with environment }).configure name? = .ok (config, notices) := by
  unfold load
  simp only [ok_of_bind_iff, ok_of_mapError_iff]
  constructor
  · rintro ⟨adopted, hfile, settings, hconfigure, hloaded⟩
    cases hloaded
    exact ⟨hfile, hconfigure⟩
  · rintro ⟨hfile, hconfigure⟩
    exact ⟨environment, hfile, (config, notices), hconfigure, rfl⟩

/-- The settings need not be worked out to tell what a load leaves in the environment. -/
theorem exists_load_eq_ok [EnvFile.Reader] {s : Surroundings} {envFile? name? : Option Text}
    {environment : Environment}
    (h : (s.load envFile? name?).toOption.map (·.2.1) = some environment) :
    ∃ config notices, s.load envFile? name? = .ok (config, environment, notices) := by
  cases hload : s.load envFile? name? with
  | error fault =>
    rw [hload] at h
    cases h
  | ok loaded =>
    rw [hload] at h
    cases h
    exact ⟨loaded.1, loaded.2.2, rfl⟩

/-- A variable that turns the file off is not changed by the file. -/
theorem disablesFile_of_adopt [EnvFile.Reader] {e e' : Environment} {file : List EnvFile.Binding}
    (h : e.adopt file = .ok e') (hoff : e.disablesFile = true) : e'.disablesFile = true := by
  unfold Environment.disablesFile at hoff ⊢
  cases hset : e.get? disablingVariable with
  | none =>
    rw [hset] at hoff
    cases hoff
  | some value =>
    rw [hset] at hoff
    rw [Environment.get?_of_adopt h hset]
    exact hoff

/-- **Loading the settings twice.**  Whenever settings are loaded, in any environment and with any
file of variables, then the file could be read, and

* the variables afterwards are those that were set, with the values that they had, and those that
  were not set and that the file gives a value: what its last binding for the name says, with each
  reference replaced;
* loading them again, in the environment that is there now, gives the same settings and notices, and
  leaves this environment as it is. -/
theorem load_again [EnvFile.Reader] {s : Surroundings} {envFile? name? : Option Text}
    {config : Config} {environment : Environment} {notices : List Notice}
    (h : s.load envFile? name? = .ok (config, environment, notices)) :
    (∃ file, s.bindingsAt envFile? = .ok file ∧
      ∀ name value, environment.get? name = some value ↔
        s.environment.get? name = some value ∨
          s.environment.get? name = none ∧
            ∃ given, EnvFile.Gives s.environment file name given ∧ value = Utf8.reread given) ∧
    ({ s with environment }).load envFile? name? = .ok (config, environment, notices) := by
  obtain ⟨hfile, hconfigure⟩ := load_eq_ok_iff.1 h
  obtain ⟨file, hbindings, hadopt⟩ := withFile_eq_ok_iff.1 hfile
  refine ⟨⟨file, hbindings, Environment.get?_adopt_iff hadopt⟩, load_eq_ok_iff.2 ⟨?_, hconfigure⟩⟩
  obtain hagain | hoff := bindingsAt_again hbindings (disablesFile_of_adopt hadopt)
  · exact withFile_eq_ok_iff.2 ⟨file, hagain, Environment.adopt_again hadopt⟩
  · exact withFile_eq_ok_iff.2 ⟨[], hoff, rfl⟩

/-- One variable is set.  The file of variables binds it anew, one name twice, one to no value, and
two to values with references in them. -/
def referring : Surroundings where
  environment := [("C", "y")]
  argv0 := "prog"
  temporary := "/tmp"
  ownHome := "/root"
  homes := []
  files :=
    { entries := [({ absolute := false, names := [".env"] }, .file (Utf8.encodeReplacing
        "A=1\nB=$\x7bA\x7d-$\x7bC:-x\x7d\nA=2\nE\nC=3\nD=$\x7bA\x7d$\x7bZ\x7d\n"))] }

/-- The first reference to `A` finds the value that it had there, the second one the last value. -/
theorem referring_load_again :
    let after : Environment := [("C", "y"), ("A", "2"), ("B", "1-y"), ("D", "2")]
    ∃ config notices, referring.load (some ".env") none = .ok (config, after, notices) ∧
      ({ referring with environment := after }).load (some ".env") none
        = .ok (config, after, notices) := by
  intro after
  obtain ⟨config, notices, hload⟩ :=
    exists_load_eq_ok (show (referring.load (some ".env") none).toOption.map (·.2.1) = some after by
      decide +kernel)
  exact ⟨config, notices, hload, (load_again hload).2⟩

end Surroundings

end ControlChannel
