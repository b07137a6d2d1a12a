import ControlChannel.Listener.Weather

/-!
# Sends that come to an end

Over a transport on which neither draining nor closing hangs, with whatever other faults, every send
comes to an end, and a release is over as soon as it gets to run.  So no connection keeps its listener
for ever.

* `TransportMode.Flows`, `Weather.Flows` — transports on which nothing hangs, and what may befall
  them;
* `OutputHandle.Flows` — a handle over such a transport, with one lemma for each thing that is done
  with it, and one for each that befalls it;
* `Course.act_hanging`, `Course.chances_hanging` — **no send is left hanging**;
* `Weather.begun_of_flows`, `Weather.withholds_of_flows` — all actions are begun, and a message is not
  waited for in vain;
* `Listener.hangsOn_of_flows` — the listener gets through with the connection.
-/

namespace ControlChannel

/-! ### Transports and handles -/

/-- Neither draining nor closing hangs.  Each of them, and writing, may fail. -/
def TransportMode.Flows (mode : TransportMode) : Prop :=
  mode.stalls = false ∧ mode.stallsClosing = false

instance (mode : TransportMode) : Decidable mode.Flows := inferInstanceAs (Decidable (_ ∧ _))

/-- What befalls a writing end on which nothing hangs. -/
def Course.Chance.Flows : Course.Chance → Prop
  | .mode next => next.Flows
  | _ => True

instance : (chance : Course.Chance) → Decidable chance.Flows
  | .mode next => inferInstanceAs (Decidable next.Flows)
  | .wake _ => isTrue trivial
  | .settle => isTrue trivial
  | .expire => isTrue trivial

/-- All that a writing end meets, while nothing hangs. -/
def Weather.Flows (weather : Weather) : Prop :=
  ∀ chances ∈ weather, ∀ chance ∈ chances, Course.Chance.Flows chance

instance (weather : Weather) : Decidable weather.Flows :=
  inferInstanceAs (Decidable (∀ chances ∈ weather, ∀ chance ∈ chances, Course.Chance.Flows chance))

theorem Transport.offer_flows {t : Transport} (flows : t.mode.Flows) (m : Message) :
    (t.offer m).2.mode.Flows ∧ (t.offer m).1 ≠ .stuck := by
  unfold offer
  split
  · exact ⟨flows, nofun⟩
  · dsimp only
    rw [if_neg (by simp [flows.1])]
    split <;> exact ⟨flows, nofun⟩

theorem Transport.waitClosed_flows {t : Transport} (flows : t.mode.Flows) :
    t.waitClosed ≠ .stuck := by
  unfold waitClosed
  rw [if_neg (by simp [flows.2])]
  split <;> exact nofun

namespace OutputHandle

/-- A handle over a transport on which nothing hangs: no step of its release does. -/
structure Flows (h : OutputHandle) : Prop where
  mode : h.transport.mode.Flows
  unhung : h.timeLeft = none

variable {h : OutputHandle}

theorem flows_of_released (mode : h.transport.mode.Flows) (released : h.phase = .released) :
    h.Flows :=
  ⟨mode, by rw [timeLeft, released]⟩

/-- Nothing of a released handle is under way. -/
theorem pending_of_released (released : h.phase = .released) : h.pending = 0 := by
  rw [pending, released]

theorem send_flows (flows : h.Flows) (value : Json) : (h.send value).2.1.Flows := by
  unfold send
  split
  · exact flows
  · split
    · exact flows
    · split
      · exact flows
      · rename_i packet _
        have hoffer := (Transport.offer_flows flows.mode packet).1
        split
        all_goals
          rename_i hoffered
          rw [hoffered] at hoffer
          exact ⟨hoffer, flows.unhung⟩

theorem send_tells (flows : h.Flows) (value : Json) : (h.send value).1 ≠ none := by
  unfold send
  split
  · exact nofun
  · split
    · exact nofun
    · split
      · exact nofun
      · rename_i packet _
        have hunstuck := (Transport.offer_flows flows.mode packet).2
        split
        · exact nofun
        · exact nofun
        · rename_i hoffered
          rw [hoffered] at hunstuck
          exact absurd rfl hunstuck

theorem close_flows (flows : h.Flows) : h.close.Flows := by
  unfold close
  split
  · exact ⟨flows.mode, rfl⟩
  · exact flows

theorem act_flows (flows : h.Flows) (action : Action) : (h.act action).2.1.Flows := by
  cases action with
  | send value => exact send_flows flows value
  | close => exact close_flows flows
  | requestShutdown => exact ⟨flows.mode, flows.unhung⟩

/-- Closing a connection does not hang. -/
theorem release_flows (flows : h.transport.mode.Flows) :
    h.release.transport.mode.Flows ∧ h.release.phase = .released := by
  have hwait := Transport.waitClosed_flows (t := h.transport.close) flows
  unfold release
  dsimp only
  split
  · exact ⟨flows, rfl⟩
  · split
    · contradiction
    · exact ⟨flows, rfl⟩

/-- Nor does the terminal message before it. -/
theorem notify_flows (flows : h.transport.mode.Flows) :
    h.notify.1.transport.mode.Flows ∧ h.notify.1.phase = .released := by
  obtain ⟨hmode, hunstuck⟩ := Transport.offer_flows flows .closeSocket
  unfold notify
  split
  · exact release_flows flows
  · split
    all_goals
      rename_i hoffered
      rw [hoffered] at hmode hunstuck
      first
        | exact release_flows hmode
        | exact absurd rfl hunstuck

/-- **A release that gets to run is over.** -/
theorem runRelease_flows (flows : h.Flows) :
    h.runRelease.1.Flows ∧ (h.closed = true → h.runRelease.1.phase = .released) := by
  have hunhung := flows.unhung
  unfold runRelease
  cases hphase : h.phase with
  | active => exact ⟨flows, fun hclosed => by simp [closed, hphase] at hclosed⟩
  | scheduled broken =>
    cases broken with
    | true =>
      obtain ⟨hmode, hreleased⟩ := release_flows flows.mode
      exact ⟨flows_of_released hmode hreleased, fun _ => hreleased⟩
    | false =>
      obtain ⟨hmode, hreleased⟩ := notify_flows flows.mode
      exact ⟨flows_of_released hmode hreleased, fun _ => hreleased⟩
  | notifying left => simp [timeLeft, hphase] at hunhung
  | releasing left => simp [timeLeft, hphase] at hunhung
  | released => exact ⟨flows, fun _ => hphase⟩

/-- Where nothing hangs no time is up. -/
theorem expire_flows (flows : h.Flows) : h.expire = (h, []) := by
  have hunhung := flows.unhung
  unfold expire
  cases hphase : h.phase with
  | notifying left => simp [timeLeft, hphase] at hunhung
  | releasing left => simp [timeLeft, hphase] at hunhung
  | _ => rfl

/-- **Waiting for a release** is letting it run. -/
theorem drain_flows (flows : h.Flows) (time : Option Double) :
    (h.drain time).1 = h.runRelease.1 := by
  have hover : h.runRelease.1.waitThrough 3 time = (h.runRelease.1, []) := by
    rw [waitThrough, (runRelease_flows flows).1.unhung]
  unfold drain
  dsimp only
  rw [hover]

end OutputHandle

/-! ### Courses -/

namespace Course

variable {c : Course}

theorem befall_flows (flows : c.handle.Flows) {chance : Chance} (h : chance.Flows) :
    (c.befall chance).handle.Flows := by
  cases chance with
  | mode mode => exact ⟨h, flows.unhung⟩
  | wake fault =>
    show (c.wake fault).handle.Flows
    unfold wake
    split
    · exact flows
    · exact ⟨flows.mode, flows.unhung⟩
    · exact ⟨flows.mode, flows.unhung⟩
  | settle => exact (OutputHandle.runRelease_flows flows).1
  | expire =>
    show c.handle.expire.1.Flows
    rw [OutputHandle.expire_flows flows]
    exact flows

/-- A handle that was closed stays so, and its release is over once and for all. -/
theorem befall_phase (flows : c.handle.Flows) (chance : Chance) :
    (c.befall chance).handle.phase = c.handle.phase ∨
      (c.befall chance).handle.phase = .released ∧ c.handle.closed = true := by
  cases chance with
  | mode mode => exact .inl rfl
  | wake fault =>
    left
    show (c.wake fault).handle.phase = _
    unfold wake
    split <;> rfl
  | settle =>
    show c.handle.runRelease.1.phase = _ ∨ c.handle.runRelease.1.phase = _ ∧ _
    cases hclosed : c.handle.closed with
    | true => exact .inr ⟨(OutputHandle.runRelease_flows flows).2 hclosed, rfl⟩
    | false =>
      have hactive : c.handle.phase = .active := by simpa [OutputHandle.closed] using hclosed
      left
      rw [OutputHandle.runRelease, hactive]
      exact hactive
  | expire =>
    left
    show c.handle.expire.1.phase = _
    rw [OutputHandle.expire_flows flows]

theorem befall_closed (flows : c.handle.Flows) (chance : Chance) (closed : c.handle.closed = true) :
    (c.befall chance).handle.closed = true := by
  obtain hphase | ⟨hphase, _⟩ := befall_phase flows chance
  · rw [OutputHandle.closed, hphase]
    exact closed
  · rw [OutputHandle.closed, hphase]
    rfl

theorem chances_flows (flows : c.handle.Flows) {chances : List Chance}
    (h : ∀ chance ∈ chances, chance.Flows) : (c.run (chances.map .chance)).handle.Flows := by
  induction chances generalizing c with
  | nil => exact flows
  | cons chance chances ih =>
    obtain ⟨hchance, hchances⟩ := List.forall_mem_cons.1 h
    exact ih (befall_flows flows hchance) hchances

theorem flows_headD {weather : Weather} (flows : weather.Flows) :
    ∀ chance ∈ weather.headD [], Chance.Flows chance := by
  cases weather with
  | nil => exact fun _ hmem => by cases hmem
  | cons chances weather => exact flows chances List.mem_cons_self

theorem flows_drop {weather : Weather} (flows : weather.Flows) (k : Nat) :
    Weather.Flows (weather.drop k) :=
  fun chances hmem => flows chances (List.mem_of_mem_drop hmem)

/-! ### Nothing is left hanging -/

/-- A send tells something. -/
theorem act_hanging (flows : c.handle.Flows) (action : Action) :
    (c.act action).hanging = c.hanging := by
  cases action with
  | send value =>
    obtain ⟨written, hresult⟩ := Option.ne_none_iff_exists'.1 (OutputHandle.send_tells flows value)
    simp only [act, OutputHandle.act, hresult]
  | close => rfl
  | requestShutdown => rfl

theorem befall_hanging (awake : c.hanging = 0) (chance : Chance) : (c.befall chance).hanging = 0 := by
  cases chance with
  | wake fault =>
    show (c.wake fault).hanging = 0
    unfold wake
    rw [awake]
    exact awake
  | _ => exact awake

theorem chances_hanging (awake : c.hanging = 0) (chances : List Chance) :
    (c.run (chances.map .chance)).hanging = 0 := by
  induction chances generalizing c with
  | nil => exact awake
  | cons chance chances ih => exact ih (befall_hanging awake chance)

end Course

namespace Weather

variable {weather : Weather}

/-- **All actions are begun**, one after the other. -/
theorem begun_of_flows (h : weather.Flows) {c : Course} (flows : c.handle.Flows)
    (awake : c.hanging = 0) (actions : List Action) : weather.begun c actions = actions.length := by
  induction actions generalizing weather c with
  | nil => rfl
  | cons action actions ih =>
    have hflows := Course.chances_flows flows (Course.flows_headD h)
    have hawake := Course.chances_hanging awake (weather.headD [])
    unfold begun
    dsimp only
    rw [if_pos hawake, List.length_cons]
    refine congrArg (· + 1) (ih (List.drop_one ▸ Course.flows_drop h 1) ?_ ?_)
    · exact OutputHandle.act_flows hflows action
    · exact (Course.act_hanging hflows action).trans hawake

theorem opening_flows (h : weather.Flows) : weather.opening.mode.Flows := by
  show TransportMode.Flows (List.getLastD (List.filterMap _ (weather.headD [])) {})
  rw [List.getLastD_eq_getLast?]
  cases hlast : (List.filterMap _ (weather.headD [])).getLast? with
  | none => exact ⟨rfl, rfl⟩
  | some mode =>
    obtain ⟨chance, hchance, hmode⟩ := List.mem_filterMap.1 (List.mem_of_getLast? hlast)
    have hflows := Course.flows_headD h chance hchance
    cases chance with
    | mode next =>
      obtain rfl : next = mode := Option.some.inj hmode
      exact hflows
    | _ => cases hmode

/-- **A message is not waited for in vain.** -/
theorem withholds_of_flows (h : weather.Flows) (m : Message) : weather.withholds m = false := by
  have hunstuck := (Transport.offer_flows (opening_flows h) m).2
  unfold withholds write
  cases hoffer : weather.opening.offer m with
  | mk progress transport =>
    rw [hoffer] at hunstuck
    cases progress with
    | stuck => exact absurd rfl hunstuck
    | _ => rfl

end Weather

/-- **A listener gets through with a connection** on which nothing hangs. -/
theorem Listener.hangsOn_of_flows {Facts Command : Type} (d : Dispatch Facts Command)
    (l : Listener Facts) {connection : Connection} (h : connection.weather.Flows) :
    l.hangsOn d connection = false := by
  have hwritten : ∀ m : Option Message, m.any connection.weather.withholds = false := by
    rintro (_ | m)
    · rfl
    · exact Weather.withholds_of_flows h m
  unfold hangsOn Dispatch.hangs
  split
  · split
    · exact hwritten _
    · dsimp only
      rw [Weather.begun_of_flows h ⟨⟨rfl, rfl⟩, rfl⟩ rfl]
      exact decide_eq_false (Nat.lt_irrefl _)
  · exact hwritten _
  · rfl

end ControlChannel
