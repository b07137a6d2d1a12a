import ControlChannel.Proofs.ReleaseTask

/-!
# Every closed handle is released once

Many handles share one set of pending releases.  Whatever happens to them in whatever order, the set
holds the releases of those that were closed and are not released yet.

* `Outputs.Sound`, `Outputs.Sound.alter`, `Outputs.Sound.run` — what holds at any time: one handle
  changes, and **whatever happens**;
* `Outputs.Sound.run_output`, `Outputs.Sound.run_reaches` — a handle goes on among others, and never
  back;
* `Outputs.releaseOf`, `Outputs.Sound.run_releases` — the turns of a release, and **a release that
  gets them**;
* `Outputs.ClosedIn`, `Outputs.closed_exactly` — which handles were closed;
* `Outputs.released_once` — all of this, of every run.
-/

namespace ControlChannel

namespace Outputs

variable {s : Outputs}

/-- What holds of many handles at any time: each output is sound, and the pending releases are those
under way, each once. -/
structure Sound (s : Outputs) : Prop where
  sound : ∀ {k : Nat} {o : Output}, s.outputs[k]? = some o → o.Sound
  nodup : s.pending.Nodup
  pending : ∀ k, k ∈ s.pending ↔ ∃ o, s.outputs[k]? = some o ∧ o.underWay = true
  count : s.pending.length = s.outputs.countP Output.underWay

/-- An output is replaced, and the pending releases with it. -/
theorem Sound.set (h : s.Sound) {k : Nat} {o later : Output} {pending : List Nat}
    (ho : s.outputs[k]? = some o) (hlater : later.Sound) (hnodup : pending.Nodup)
    (hpending : ∀ i, i ∈ pending ↔ (i = k ∧ later.underWay = true) ∨ (i ≠ k ∧ i ∈ s.pending))
    (hcount : pending.length + (if o.underWay = true then 1 else 0)
      = s.pending.length + (if later.underWay = true then 1 else 0)) :
    Sound { outputs := s.outputs.set k later, pending } := by
  obtain ⟨hk, hget⟩ := List.getElem?_eq_some_iff.1 ho
  have hset : ∀ i, (s.outputs.set k later)[i]? = if i = k then some later else s.outputs[i]? := by
    intro i
    rw [List.getElem?_set]
    split
    · subst_vars
      simp
    · rw [if_neg (by omega)]
  refine ⟨fun {i o'} ho' => ?_, hnodup, fun i => ?_, ?_⟩
  · rw [hset] at ho'
    split at ho'
    · cases ho'
      exact hlater
    · exact h.sound ho'
  · rw [hpending, hset]
    by_cases hi : i = k
    · simp [hi]
    · simp [hi, h.pending i]
  · have hold : (if o.underWay = true then 1 else 0) ≤ s.outputs.countP Output.underWay := by
      split
      · exact List.countP_pos_iff.2 ⟨o, List.mem_of_getElem? ho, ‹_›⟩
      · exact Nat.zero_le _
    have hcounted := h.count
    rw [List.countP_set hk, hget]
    show pending.length = _
    omega

/-- A handle that is opened is not under way. -/
theorem Sound.opens (h : s.Sound) (client : Text) (closeTimeout : Double) (mode : TransportMode) :
    (s.step (.opens client closeTimeout mode)).Sound := by
  have hfresh := Output.sound_fresh client closeTimeout mode
  have hrest : Output.underWay { course := .fresh client closeTimeout mode } = false := rfl
  refine ⟨fun {k o} ho => ?_, h.nodup, fun k => ?_, ?_⟩
  · obtain hlt | hge := Nat.lt_or_ge k s.outputs.length
    · exact h.sound ((List.getElem?_append_left hlt).symm.trans ho)
    · have hmem := List.mem_of_getElem? ((List.getElem?_append_right hge).symm.trans ho)
      rw [List.mem_singleton.1 hmem]
      exact hfresh
  · refine (h.pending k).trans
      ⟨fun ⟨o, ho, hway⟩ => ⟨o, ?_, hway⟩, fun ⟨o, ho, hway⟩ => ⟨o, ?_, hway⟩⟩
    · exact (List.getElem?_append_left (List.getElem?_eq_some_iff.1 ho).1).trans ho
    · obtain hlt | hge := Nat.lt_or_ge k s.outputs.length
      · exact (List.getElem?_append_left hlt).symm.trans ho
      · have hmem := List.mem_of_getElem? ((List.getElem?_append_right hge).symm.trans ho)
        rw [List.mem_singleton.1 hmem, hrest] at hway
        cases hway
  · show s.pending.length = (s.outputs ++ [_]).countP Output.underWay
    rw [List.countP_append, List.countP_singleton, hrest]
    exact h.count

/-- **What happens to one handle keeps all of them sound**, if it does so for that one. -/
theorem Sound.alter (h : s.Sound) (k : Nat) {change : Output → Output}
    (hchange : ∀ {o : Output}, o.Sound → o.Moves (change o)) : (s.alter k change).Sound := by
  unfold Outputs.alter
  split
  · exact h
  rename_i o ho
  have hsound := h.sound ho
  obtain ⟨hlater, hdescends, hopened⟩ := hchange hsound
  dsimp only
  generalize change o = later at hlater hdescends hopened ⊢
  have hk : k ∈ s.pending ↔ o.underWay = true := by
    rw [h.pending k, ho]
    simp
  have hbefore := hsound.underWay_iff
  have hafter := hlater.underWay_iff
  have hclosed := Output.closed_iff (h := o.handle)
  have hclosed' := Output.closed_iff (h := later.handle)
  have hcloses : (! o.handle.closed && later.handle.closed) = true ↔
      ¬ o.handle.phase.ahead ≤ 3 ∧ later.handle.phase.ahead ≤ 3 := by
    rw [Bool.and_eq_true, Bool.not_eq_true', ← Bool.not_eq_true, hclosed, hclosed']
  have hover : o.ends.length < later.ends.length ↔
      o.handle.phase.ahead ≠ 0 ∧ later.handle.phase.ahead = 0 := by
    rw [hsound.ends_length, hlater.ends_length]
    split <;> split <;> omega
  split
  case isTrue hnow =>
    -- the handle gets closed: its release is scheduled, and was not pending before
    obtain ⟨hopen, hnow⟩ := hcloses.1 hnow
    have hactive : o.handle.phase = .active := by
      cases hphase : o.handle.phase with
      | active => rfl
      | _ => simp [hphase, ClosePhase.ahead] at hopen
    have hnew : later.underWay = true := hafter.2 ⟨Nat.le_trans (by decide) (hopened hactive), hnow⟩
    have hold : ¬ o.underWay = true := fun hway => hopen (hbefore.1 hway).2
    refine h.set ho hlater ?_ (fun i => ?_) ?_
    · rw [List.nodup_append]
      refine ⟨h.nodup, List.nodup_cons.2 ⟨List.not_mem_nil, List.nodup_nil⟩, ?_⟩
      rintro a ha b hb rfl
      rw [List.mem_singleton.1 hb] at ha
      exact hold (hk.1 ha)
    · by_cases hi : i = k
      · simp [hi, hnew]
      · simp [hi]
    · simp [hnew, hold]
  rename_i hopen
  rw [hcloses] at hopen
  split
  case isTrue hends =>
    -- the release is over
    rw [hover] at hends
    have hold : o.underWay = true := hbefore.2 (by omega)
    have hnew : ¬ later.underWay = true := fun hway => by
      have := hafter.1 hway
      omega
    refine h.set ho hlater (h.nodup.erase k) (fun i => ?_) ?_
    · simp [h.nodup.mem_erase_iff, hnew]
    · have hlength := List.length_erase_of_mem (hk.2 hold)
      have hpos := List.length_pos_of_mem (hk.2 hold)
      rw [if_pos hold, if_neg hnew, hlength]
      omega
  case isFalse hends =>
    rw [hover] at hends
    have hsame : o.underWay = true ↔ later.underWay = true := by
      rw [hbefore, hafter]
      omega
    refine h.set ho hlater h.nodup (fun i => ?_) ?_
    · by_cases hi : i = k
      · simp [hi, hk, hsame]
      · simp [hi]
    · simp [hsame]

/-- **Whatever happens** keeps all outputs sound. -/
theorem Sound.step (h : s.Sound) (happening : Happening) : (s.step happening).Sound := by
  cases happening with
  | opens client closeTimeout mode => exact h.opens client closeTimeout mode
  | befalls k event => exact h.alter k fun ho => ho.step event
  | resumes k fault => exact h.alter k fun ho => ho.resumes fault

theorem Sound.run (h : s.Sound) (happenings : List Happening) : (s.run happenings).Sound := by
  induction happenings generalizing s with
  | nil => exact h
  | cons happening happenings ih => exact ih (h.step happening)

theorem sound_empty : Sound {} :=
  ⟨by simp, List.nodup_nil, fun k => by simp, rfl⟩

/-! ### How a handle goes on among others -/

theorem alter_output {k i : Nat} {o : Output} (ho : s.outputs[i]? = some o)
    (change : Output → Output) :
    (s.alter k change).outputs[i]? = some (if i = k then change o else o) := by
  unfold Outputs.alter
  by_cases hi : i = k
  · subst hi
    obtain ⟨hlt, rfl⟩ := List.getElem?_eq_some_iff.1 ho
    simp [hlt]
  · cases hk : s.outputs[k]? with
    | none => simp [ho, hi]
    | some other => simp [ho, hi, List.getElem?_set_ne (Ne.symm hi)]

/-- A handle goes on and never goes back, whatever happens to it or to others. -/
theorem Sound.step_output (h : s.Sound) {k : Nat} {o : Output} (ho : s.outputs[k]? = some o)
    (happening : Happening) :
    ∃ later, (s.step happening).outputs[k]? = some later ∧
      later.handle.phase.ahead ≤ o.handle.phase.ahead := by
  have hsound := h.sound ho
  cases happening with
  | opens client closeTimeout mode =>
    have hplace : k < s.outputs.length := (List.getElem?_eq_some_iff.1 ho).1
    exact ⟨o, (List.getElem?_append_left hplace).trans ho, Nat.le_refl _⟩
  | befalls i event =>
    refine ⟨_, alter_output ho _, ?_⟩
    split
    · exact (hsound.step event).descends
    · exact Nat.le_refl _
  | resumes i fault =>
    refine ⟨_, alter_output ho _, ?_⟩
    split
    · exact (hsound.resumes fault).descends
    · exact Nat.le_refl _

theorem Sound.run_output (h : s.Sound) {k : Nat} {o : Output} (ho : s.outputs[k]? = some o)
    (happenings : List Happening) :
    ∃ later, (s.run happenings).outputs[k]? = some later ∧
      later.handle.phase.ahead ≤ o.handle.phase.ahead := by
  induction happenings generalizing s o with
  | nil => exact ⟨o, ho, Nat.le_refl _⟩
  | cons happening happenings ih =>
    obtain ⟨next, hnext, hle⟩ := h.step_output ho happening
    obtain ⟨later, hlater, hle'⟩ := ih (h.step happening) hnext
    exact ⟨later, hlater, Nat.le_trans hle' hle⟩

/-- **What brings a handle so far** does so among all that happens. -/
theorem Sound.run_reaches (h : s.Sound) {k : Nat} {o : Output} (ho : s.outputs[k]? = some o)
    {event : Course.Event} {bound : Nat}
    (hevent : ∀ {next : Output}, next.Sound →
      next.handle.phase.ahead ≤ o.handle.phase.ahead → (next.step event).handle.phase.ahead ≤ bound)
    {happenings : List Happening} (hmem : .befalls k event ∈ happenings) :
    ∃ later, (s.run happenings).outputs[k]? = some later ∧ later.handle.phase.ahead ≤ bound := by
  obtain ⟨before, after, rfl⟩ := List.append_of_mem hmem
  obtain ⟨next, hnext, hle⟩ := h.run_output ho before
  have hsound := h.run before
  have hstep := alter_output (k := k) hnext (·.step event)
  rw [if_pos rfl] at hstep
  obtain ⟨later, hlater, hle'⟩ := (hsound.step (.befalls k event)).run_output hstep after
  rw [run_append]
  exact ⟨later, hlater, Nat.le_trans hle' (hevent (hsound.sound hnext) hle)⟩

/-- What the release of a handle waits for in turn: it gets to run, and the time of its two steps is
up. -/
def releaseOf (k : Nat) : List Happening :=
  [.befalls k (.chance .settle), .befalls k (.chance .expire), .befalls k (.chance .expire)]

/-- **A release that gets its turns is over.** -/
theorem Sound.run_releases (h : s.Sound) {k : Nat} (hk : k ∈ s.pending) {later : List Happening}
    (hturns : (releaseOf k).Sublist later) :
    ∃ o, (s.run later).outputs[k]? = some o ∧ o.ends = [none] ∧ o.handle.transport.closes = 1 := by
  obtain ⟨o, ho, hway⟩ := (h.pending k).1 hk
  have hclosed := ((h.sound ho).underWay_iff.1 hway).2
  obtain ⟨before, rest, rfl, hsettle, hturns⟩ := List.cons_sublist_iff.1 hturns
  obtain ⟨between, rest, rfl, hexpire, hturns⟩ := List.cons_sublist_iff.1 hturns
  have hlast := List.singleton_sublist.1 hturns
  -- first the release gets to run, then each of its two steps has its time
  obtain ⟨first, hfirst, htwo⟩ := h.run_reaches ho
    (fun hnext hle => hnext.settles (Nat.le_trans hle hclosed)) hsettle
  have hsound := h.run before
  obtain ⟨second, hsecond, hone⟩ := hsound.run_reaches hfirst
    (fun hnext hle => hnext.expires (Nat.le_trans hle htwo) (Nat.le_refl 1)) hexpire
  have hsound' := hsound.run between
  obtain ⟨third, hthird, hzero⟩ := hsound'.run_reaches hsecond
    (fun hnext hle => hnext.expires (Nat.le_trans hle hone) (Nat.zero_le 1)) hlast
  rw [run_append, run_append]
  exact ⟨third, hthird, ((hsound'.run rest).sound hthird).over (Nat.le_zero.1 hzero)⟩

/-- **While nothing is closed**, no release gets pending. -/
theorem Sound.step_pending (h : s.Sound) {happening : Happening} (hopen : happening.closes = false)
    {k : Nat} (hk : k ∈ (s.step happening).pending) : k ∈ s.pending := by
  have halter : ∀ {i : Nat} {change : Output → Output},
      (∀ {o : Output}, o.Sound → (change o).handle.closed = o.handle.closed) →
      k ∈ (s.alter i change).pending → k ∈ s.pending := by
    intro i change hchange hk
    unfold Outputs.alter at hk
    split at hk
    · exact hk
    · rename_i o ho
      dsimp only at hk
      rw [hchange (h.sound ho), if_neg (by simp)] at hk
      split at hk
      · exact List.mem_of_mem_erase hk
      · exact hk
  cases happening with
  | opens client closeTimeout mode => exact hk
  | befalls i event =>
    have hevent : event.closes = false := hopen
    exact halter (fun ho => by rw [ho.step_closed, hevent, Bool.or_false]) hk
  | resumes i fault => exact halter (fun ho => ho.goOn_closed (Output.caught_system fault)) hk

theorem Sound.run_pending (h : s.Sound) {happenings : List Happening}
    (hopen : ∀ happening ∈ happenings, happening.closes = false) {k : Nat}
    (hk : k ∈ (s.run happenings).pending) : k ∈ s.pending := by
  induction happenings generalizing s with
  | nil => exact hk
  | cons happening happenings ih =>
    obtain ⟨hfirst, hrest⟩ := List.forall_mem_cons.1 hopen
    exact h.step_pending hfirst (ih (h.step happening) hrest hk)

/-- A close befalls a handle, after it was opened. -/
def ClosedIn (happenings : List Happening) (k : Nat) : Prop :=
  ∃ before event after, happenings = before ++ .befalls k event :: after ∧ event.closes = true ∧
    k < (run {} before).outputs.length

theorem closedIn_concat {happenings : List Happening} {happening : Happening} {k : Nat} :
    ClosedIn (happenings ++ [happening]) k ↔ ClosedIn happenings k ∨
      ∃ event, happening = .befalls k event ∧ event.closes = true ∧
        k < (run {} happenings).outputs.length := by
  constructor
  · rintro ⟨before, event, after, hsplit, hcloses, hlt⟩
    obtain rfl | ⟨after, last, rfl⟩ := List.eq_nil_or_concat after
    · obtain ⟨rfl, hlast⟩ := List.append_inj' hsplit rfl
      exact .inr ⟨event, List.singleton_inj.1 hlast, hcloses, hlt⟩
    · rw [List.concat_eq_append, ← List.cons_append, ← List.append_assoc] at hsplit
      obtain ⟨rfl, _⟩ := List.append_inj' hsplit rfl
      exact .inl ⟨before, event, after, rfl, hcloses, hlt⟩
  · rintro (⟨before, event, after, rfl, hcloses, hlt⟩ | ⟨event, rfl, hcloses, hlt⟩)
    · exact ⟨before, event, after ++ [happening], by simp, hcloses, hlt⟩
    · exact ⟨happenings, event, [], rfl, hcloses, hlt⟩

theorem ClosedIn.lt {happenings : List Happening} {k : Nat} (h : ClosedIn happenings k) :
    k < (run {} happenings).outputs.length := by
  obtain ⟨before, event, after, rfl, _, hlt⟩ := h
  obtain ⟨later, hlater, _⟩ := (sound_empty.run before).run_output (List.getElem?_eq_getElem hlt)
    (.befalls k event :: after)
  rw [run_append]
  exact (List.getElem?_eq_some_iff.1 hlater).1

theorem alter_length (s : Outputs) (k : Nat) (change : Output → Output) :
    (s.alter k change).outputs.length = s.outputs.length := by
  unfold Outputs.alter
  split
  · rfl
  · exact List.length_set

/-- What happens to an open handle closes it exactly if it is a close. -/
theorem Sound.step_output_closed (h : s.Sound) {k : Nat} {o later : Output}
    (ho : s.outputs[k]? = some o) {happening : Happening}
    (hlater : (s.step happening).outputs[k]? = some later) :
    later.handle.closed = true ↔
      o.handle.closed = true ∨ ∃ event, happening = .befalls k event ∧ event.closes = true := by
  cases happening with
  | opens client closeTimeout mode =>
    have hsame := (List.getElem?_append_left (List.getElem?_eq_some_iff.1 ho).1).symm.trans hlater
    rw [ho] at hsame
    cases hsame
    simp
  | befalls i event =>
    have hnow := (alter_output ho _).symm.trans hlater
    by_cases hi : k = i
    · rw [if_pos hi] at hnow
      cases hnow
      rw [(h.sound ho).step_closed, Bool.or_eq_true]
      simp [hi]
    · rw [if_neg hi] at hnow
      cases hnow
      simp [Ne.symm hi]
  | resumes i fault =>
    have hnow := (alter_output ho _).symm.trans hlater
    have hsame : later.handle.closed = o.handle.closed := by
      cases hnow
      split
      · exact (h.sound ho).goOn_closed (Output.caught_system fault)
      · rfl
    simp [hsame]

/-- **A handle is closed exactly if a close befell it.** -/
theorem closed_exactly (happenings : List Happening) {k : Nat} {o : Output}
    (ho : (run {} happenings).outputs[k]? = some o) :
    o.handle.closed = true ↔ ClosedIn happenings k := by
  induction happenings using List.reverseRecOn generalizing o with
  | nil => simp at ho
  | append_singleton happenings happening ih =>
    rw [run_append] at ho
    have ho : ((run {} happenings).step happening).outputs[k]? = some o := ho
    rw [closedIn_concat]
    by_cases hlt : k < (run {} happenings).outputs.length
    · have hbefore := List.getElem?_eq_getElem hlt
      rw [(sound_empty.run happenings).step_output_closed hbefore ho, ih hbefore]
      simp [hlt]
    · -- the handle was opened just now
      have hnew : o.handle.closed = false := by
        cases happening with
        | opens client closeTimeout mode =>
          have hmem := List.mem_of_getElem?
            ((List.getElem?_append_right (Nat.le_of_not_lt hlt)).symm.trans ho)
          rw [List.mem_singleton.1 hmem]
          rfl
        | befalls i event =>
          have hk := (List.getElem?_eq_some_iff.1 ho).1
          exact absurd (alter_length (run {} happenings) i _ ▸ hk) hlt
        | resumes i fault =>
          have hk := (List.getElem?_eq_some_iff.1 ho).1
          exact absurd (alter_length (run {} happenings) i _ ▸ hk) hlt
      rw [hnew]
      refine ⟨nofun, ?_⟩
      rintro (hclosed | ⟨event, _, _, hk⟩)
      · exact absurd hclosed.lt hlt
      · exact absurd hk hlt

/-- **Every closed handle is released exactly once**, whatever happens to any number of handles.

* Nothing gets out of a send, a close or a leave.
* A handle that was never closed never has its connection closed.  Of any other one the release is
  not over, or it was over once, without a failure, and the connection was closed once.
* A step of a release that hangs has all the time of a step, and then it is cut off.
* The pending releases are those of the closed handles whose release is not over, each once.
* A pending release that gets its turns is over.
* Who waits until all that is pending is over, while nothing is closed, finds nothing pending. -/
theorem released_once (happenings : List Happening) :
    let now := run {} happenings
    (∀ k o, now.outputs[k]? = some o →
      o.escaped = [] ∧
      (o.handle.closed = true ↔ ClosedIn happenings k) ∧
      (o.handle.closed = false → o.ends = [] ∧ o.handle.transport.closes = 0) ∧
      (o.ends = [] ∧ o.handle.transport.closes ≤ 1 ∨
        o.ends = [none] ∧ o.handle.transport.closes = 1) ∧
      ∀ left, o.handle.timeLeft = some left → left = o.handle.closeTimeout) ∧
    (now.pending.length = now.outputs.countP fun o => o.handle.closed && o.ends.isEmpty) ∧
    now.pending.Nodup ∧
    (∀ k, k ∈ now.pending ↔
      ∃ o, now.outputs[k]? = some o ∧ o.handle.closed = true ∧ o.ends = []) ∧
    (∀ k ∈ now.pending, ∀ later, (releaseOf k).Sublist later →
      ∃ o, (now.run later).outputs[k]? = some o ∧ o.ends = [none] ∧
        o.handle.transport.closes = 1) ∧
    (∀ later, (∀ happening ∈ later, happening.closes = false) →
      (∀ k ∈ now.pending, k ∉ (now.run later).pending) → (now.run later).pending = []) := by
  intro now
  have hnow : now.Sound := sound_empty.run happenings
  refine ⟨fun k o ho => ?each, hnow.count, hnow.nodup, fun k => ?pending, ?ends, ?drained⟩
  case each =>
    have hsound := hnow.sound ho
    have hcloses := hsound.timely.closes
    have hends := hsound.ends
    refine ⟨hsound.escaped, closed_exactly happenings ho, fun hopen => ?_, ?_, hsound.timely.timed⟩
    · have hactive : o.handle.phase = .active := by simpa [OutputHandle.closed] using hopen
      rw [hends, hcloses, hactive]
      exact ⟨rfl, rfl⟩
    · rw [hends, hcloses]
      cases o.handle.phase <;> simp [ClosePhase.ends, ClosePhase.closes]
  case pending => simpa [Output.underWay] using hnow.pending k
  case ends => exact fun k hk later hturns => hnow.run_releases hk hturns
  case drained =>
    intro later hopen hover
    refine List.eq_nil_iff_forall_not_mem.2 fun k hk => ?_
    exact hover k (hnow.run_pending hopen hk) hk

/-- Of three handles one is closed whose transport has stalled, one broke in a send before it was
left, and one stays open.  The release of the first is pending until its time is up twice. -/
theorem stalled_released_once :
    let happenings : List Happening :=
      [.opens "ctl_1" (.ofInt 2) {}, .opens "ctl_2" (.ofInt 2) { write := some .brokenPipe },
        .opens "ctl_3" (.ofInt 2) {},
        .befalls 0 (.chance (.mode { stalls := true, stallsClosing := true })),
        .befalls 0 (.act .close), .befalls 1 (.act (.send (.str "a"))), .befalls 1 (.leave none),
        .befalls 0 (.chance .settle), .befalls 1 (.chance .settle)]
    let now := run {} happenings
    now.pending = [0] ∧ (now.run (releaseOf 0)).pending = [] ∧
      ∃ o, (now.run (releaseOf 0)).outputs[0]? = some o ∧ o.ends = [none] ∧
        o.handle.transport.closes = 1 := by
  intro happenings now
  have hpending : now.pending = [0] := by decide
  obtain ⟨_, _, _, _, hover, hdrained⟩ := released_once happenings
  refine ⟨hpending, hdrained (releaseOf 0) (by decide) (fun k hk => ?_), ?_⟩
  · rw [show (run {} happenings).pending = [0] from hpending, List.mem_singleton] at hk
    subst hk
    decide
  · exact hover 0 (by rw [show (run {} happenings).pending = [0] from hpending]; decide) _
      (List.Sublist.refl _)

end Outputs

end ControlChannel
