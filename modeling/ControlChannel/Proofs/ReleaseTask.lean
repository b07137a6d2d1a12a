import ControlChannel.Output.Releases
import ControlChannel.Proofs.SendAccounts

/-!
# The task of a release

A fault of a transport is raised where it happens.  A send catches it, and so does a release, which
closes its connection in any case and is over behind that.

* `OutputHandle.attempt_eq`, `Output.step_course` — **nothing gets out**: with what is raised on the
  way, a handle goes the course that it goes without;
* `Output.reach`, `Output.closeUp_eq`, `Output.beginRelease_eq` — where a release comes to;
* `ClosePhase.ahead`, `ClosePhase.closes`, `ClosePhase.ends` — how far a handle has come, and what
  this tells of its connection and of its release;
* `Output.Sound`, `Output.Moves`, `Output.Sound.step` — what holds at any time, and **one event**;
* `Output.Sound.settles`, `Output.Sound.expires`, `Output.Sound.over` — each turn of a release takes
  it on, until it is over.
-/

namespace ControlChannel

/-! ### Nothing gets out -/

/-- The terminal message is a frame, so that writing it fails in the transport only. -/
theorem Transport.writeFrame_closeSocket (t : Transport) :
    t.writeFrame .closeSocket =
      match t.offer .closeSocket with
      | (.done, t) => (.returned (), t)
      | (.failed fault, t) => (.raised (.system fault), t)
      | (.stuck, t) => (.hangs, t) :=
  rfl

/-- The result of a send as an outcome. -/
def Upshot.ofSend : Option Bool → Upshot Bool
  | some result => .returned result
  | none => .hangs

/-- The packet of a value, with what is raised on the way. -/
theorem OutputHandle.packetFor_steps (value : Json) :
    packetFor value =
      match Message.packetOf value with
      | .error fault => .error fault
      | .ok text => (Frame.encode (.packet text)).map fun _ => .packet text := by
  unfold packetFor
  cases Message.packetOf value with
  | error fault => rfl
  | ok text =>
    cases hframe : Frame.encode (.packet text) <;>
      simp [bind, Except.bind, hframe, Except.map, pure, Except.pure]

/-- **A send catches all that is raised below it.** -/
theorem OutputHandle.attempt_eq (h : OutputHandle) (value : Json) :
    h.attempt value = (.ofSend (h.send value).1, (h.send value).2) := by
  unfold attempt send
  rw [packetFor_steps]
  split
  · rfl
  split
  · rfl
  cases Message.packetOf value with
  | error fault => rfl
  | ok text =>
    dsimp only [Transport.writeFrame]
    cases Frame.encode (.packet text) with
    | error fault => rfl
    | ok frame =>
      dsimp only [Except.map]
      generalize h.transport.offer (.packet text) = outcome
      obtain ⟨progress, transport⟩ := outcome
      cases progress <;> rfl

/-! ### How far a release has come -/

namespace ClosePhase

/-- How many steps of a handle are still to come: its close, and those of its release. -/
def ahead : ClosePhase → Nat
  | active => 4
  | scheduled _ => 3
  | notifying _ => 2
  | releasing _ => 1
  | released => 0

/-- How often the connection was closed. -/
def closes : ClosePhase → Nat
  | releasing _ => 1
  | released => 1
  | _ => 0

/-- With what the release was over, each time that it was. -/
def ends : ClosePhase → List (Option Raised)
  | released => [none]
  | _ => []

end ClosePhase

namespace OutputHandle

/-- The connection was closed as often as the phase of the handle tells, and a hanging step has all
the time of a step. -/
structure Timely (h : OutputHandle) : Prop where
  closes : h.transport.closes = h.phase.closes
  timed : ∀ left, h.timeLeft = some left → left = h.closeTimeout

/-- A release that is past the terminal message closes the connection once. -/
theorem release_timely {h : OutputHandle} (hcloses : h.transport.closes = 0) :
    h.release.Timely ∧ h.release.phase.ahead ≤ 1 := by
  have hclosed : h.transport.close.closes = 1 := congrArg (· + 1) hcloses
  unfold release
  dsimp only
  split
  · exact ⟨⟨hclosed, nofun⟩, Nat.zero_le 1⟩
  · split
    · exact ⟨⟨hclosed, fun left h => (Option.some.inj h).symm⟩, Nat.le_refl 1⟩
    · exact ⟨⟨hclosed, nofun⟩, Nat.zero_le 1⟩

theorem offer_closes (t : Transport) (m : Message) : (t.offer m).2.closes = t.closes := by
  cases hwrite : t.mode.write with
  | none => rw [Transport.offer_of_no_fault hwrite]
  | some fault => rw [Transport.offer_of_fault hwrite]

/-- A release that gets to run closes the connection once, or hangs before that. -/
theorem runRelease_timely {h : OutputHandle} {broken : Bool} (hphase : h.phase = .scheduled broken)
    (hcloses : h.transport.closes = 0) :
    h.runRelease.1.Timely ∧ h.runRelease.1.phase.ahead ≤ 2 := by
  have hrelease : ∀ {h : OutputHandle}, h.transport.closes = 0 →
      h.release.Timely ∧ h.release.phase.ahead ≤ 2 := by
    intro h hcloses
    obtain ⟨htimely, hahead⟩ := release_timely hcloses
    exact ⟨htimely, Nat.le_succ_of_le hahead⟩
  unfold runRelease
  cases broken with
  | true =>
    simp only [hphase]
    exact hrelease hcloses
  | false =>
    simp only [hphase]
    have hoffer := (offer_closes h.transport .closeSocket).trans hcloses
    unfold notify
    split
    · exact hrelease hcloses
    · generalize h.transport.offer .closeSocket = outcome at hoffer ⊢
      obtain ⟨progress, transport⟩ := outcome
      cases progress with
      | done => exact hrelease hoffer
      | failed fault => exact hrelease hoffer
      | stuck => exact ⟨⟨hoffer, fun left h => (Option.some.inj h).symm⟩, Nat.le_refl 2⟩

end OutputHandle

/-- **Where no release runs**, nothing is closed, and the phase changes by a close only. -/
theorem Course.step_of_idle {c : Course} {event : Course.Event} (hsettle : event ≠ .chance .settle)
    (hexpire : event ≠ .chance .expire) :
    (c.step event).handle.transport.closes = c.handle.transport.closes ∧
      (c.step event).handle.phase =
          if event.closes then c.handle.close.phase else c.handle.phase := by
  have hclose : c.handle.close.transport.closes = c.handle.transport.closes := by
    unfold OutputHandle.close
    split <;> rfl
  cases event with
  | leave fault => exact ⟨hclose, rfl⟩
  | act action =>
    cases action with
    | close => exact ⟨hclose, rfl⟩
    | requestShutdown => exact ⟨rfl, rfl⟩
    | send value =>
      have hsends := c.act_sends value
      show (c.act (.send value)).handle.transport.closes = _ ∧
        (c.act (.send value)).handle.phase = c.handle.phase
      generalize c.act (.send value) = later at hsends
      cases hsends <;> exact ⟨rfl, rfl⟩
  | chance chance =>
    cases chance with
    | mode mode => exact ⟨rfl, rfl⟩
    | wake fault =>
      refine ⟨?_, (c.wake_cases fault).1⟩
      show (c.wake fault).handle.transport.closes = _
      unfold Course.wake
      split <;> rfl
    | settle => exact absurd rfl hsettle
    | expire => exact absurd rfl hexpire

namespace Output

variable {o : Output}

@[simp] theorem handle_withHandle (o : Output) (handle : OutputHandle) (notices : List Notice) :
    (o.withHandle handle notices).handle = handle := rfl

/-- The release has brought the handle so far.  With a released handle it is over, and nothing is
raised. -/
def reach (o : Output) (handle : OutputHandle) (notices : List Notice) : Output :=
  { o.withHandle handle notices with
    ends := o.ends ++ if handle.phase = .released then [none] else [] }

@[simp] theorem reach_withHandle (o : Output) (handle next : OutputHandle)
    (notices more : List Notice) :
    (o.withHandle handle notices).reach next more = o.reach next (notices ++ more) := by
  simp [reach, withHandle]

/-- Nothing is raised, or what a release catches. -/
def Caught (raised : Option Raised) : Prop := ∀ what ∈ raised, ∃ fault, what.delivery? = some fault

theorem caught_none : Caught none := nofun

theorem caught_system (fault : Option OsFault) : Caught (fault.map .system) := by
  cases fault with
  | none => nofun
  | some fault => exact fun what hwhat => ⟨fault, by cases hwhat; rfl⟩

theorem caught_timedOut : Caught (some .timedOut) :=
  fun what hwhat => ⟨.timedOut, by cases hwhat; rfl⟩

/-- When the waiting for the end of the connection is over, the release is. -/
theorem closedUp_eq (hheld : o.held = none) {raised : Option Raised} (hraised : Caught raised) :
    o.closedUp raised = o.reach { o.handle with phase := .released } [] := by
  have hfinish : o.finish o.held = o.reach { o.handle with phase := .released } [] := by
    simp [finish, reach, withHandle, hheld]
  cases raised with
  | none => exact hfinish
  | some what =>
    obtain ⟨fault, hfault⟩ := hraised what rfl
    simp only [closedUp, hfault]
    exact hfinish

/-- **Closing the connection ends the release or hangs**, whatever becomes of the transport. -/
theorem closeUp_eq (hheld : o.held = none) : o.closeUp = o.reach o.handle.release [] := by
  unfold closeUp OutputHandle.release
  dsimp only [handle_withHandle]
  have hover : ∀ {raised : Option Raised}, Caught raised →
      (o.withHandle { o.handle with transport := o.handle.transport.close }).closedUp raised
        = o.reach { o.handle with transport := o.handle.transport.close, phase := .released } [] :=
    fun hraised => (closedUp_eq (o := o.withHandle _) hheld hraised).trans (reach_withHandle ..)
  by_cases htime : o.handle.closeTimeout.isAtMostZero = true
  · simp only [htime, if_true]
    exact hover caught_timedOut
  · simp only [htime]
    cases o.handle.transport.close.waitClosed with
    | done => exact hover caught_none
    | failed fault => exact hover (caught_system (some fault))
    | stuck => simp [reach, withHandle]

/-- What is told in the log of a terminal message that failed. -/
def noticesOf (o : Output) : Option Raised → List Notice
  | none => []
  | some what => (what.delivery?.map (.closeFailed o.handle.client)).toList

/-- The connection is closed behind the terminal message, and nothing is held. -/
theorem notified_eq (hheld : o.held = none) {raised : Option Raised} (hraised : Caught raised) :
    o.notified raised = o.reach o.handle.release (o.noticesOf raised) := by
  cases raised with
  | none => exact closeUp_eq hheld
  | some what =>
    obtain ⟨fault, hfault⟩ := hraised what rfl
    simp only [notified, noticesOf, hfault]
    rw [closeUp_eq (o := o.withHandle _ _) hheld, reach_withHandle]
    rfl

/-- **A release that gets to run** ends or hangs, and nothing gets out of it. -/
theorem beginRelease_eq (hheld : o.held = none) {broken : Bool}
    (hphase : o.handle.phase = .scheduled broken) :
    o.beginRelease = o.reach o.handle.runRelease.1 o.handle.runRelease.2 := by
  unfold beginRelease OutputHandle.runRelease
  cases broken with
  | true =>
    simp only [hphase]
    exact notified_eq hheld caught_none
  | false =>
    simp only [hphase]
    unfold notify OutputHandle.notify
    cases htime : o.handle.closeTimeout.isAtMostZero with
    | true => exact notified_eq hheld caught_timedOut
    | false =>
      simp only [Bool.false_eq_true, if_false, Transport.writeFrame_closeSocket]
      generalize o.handle.transport.offer .closeSocket = outcome
      obtain ⟨progress, transport⟩ := outcome
      cases progress with
      | done =>
        exact (notified_eq (o := o.withHandle _) hheld caught_none).trans (reach_withHandle ..)
      | failed fault =>
        exact (notified_eq (o := o.withHandle _) hheld (caught_system (some fault))).trans
          (reach_withHandle ..)
      | stuck => simp [reach, withHandle]

theorem goOn_of_notifying (hheld : o.held = none) {left : Double}
    (hphase : o.handle.phase = .notifying left) {raised : Option Raised} (hraised : Caught raised) :
    o.goOn raised = o.reach o.handle.release (o.noticesOf raised) := by
  simp only [goOn, hphase]
  exact notified_eq hheld hraised

theorem goOn_of_releasing (hheld : o.held = none) {left : Double}
    (hphase : o.handle.phase = .releasing left) {raised : Option Raised} (hraised : Caught raised) :
    o.goOn raised = o.reach { o.handle with phase := .released } [] := by
  simp only [goOn, hphase]
  exact closedUp_eq hheld hraised

/-- A send comes to what it comes to in a course. -/
theorem tell_attempt (o : Output) (value : Json) :
    o.tell (o.handle.attempt value) = { o with course := o.course.act (.send value) } := by
  rw [OutputHandle.attempt_eq]
  cases hsend : o.handle.send value with
  | mk result outcome =>
    obtain ⟨later, notices⟩ := outcome
    rw [handle] at hsend
    cases result <;>
      simp [Upshot.ofSend, tell, withHandle, Course.act, OutputHandle.act, hsend]

theorem wake_eq (o : Output) (fault : Option OsFault) :
    o.wake fault = { o with course := o.course.wake fault } := by
  unfold wake Course.wake
  cases hhanging : o.course.hanging with
  | zero => rfl
  | succ hanging =>
    cases fault with
    | none => simp [tell, withHandle, handle]
    | some fault => simp [tell, withHandle, handle, OutputHandle.rescue]

/-- **Where no release runs**, an output does what its course does, and nothing gets out of it. -/
theorem step_of_idle {event : Course.Event} (hsettle : event ≠ .chance .settle)
    (hexpire : event ≠ .chance .expire) :
    o.step event = { o with course := o.course.step event } := by
  have hclose : o.withHandle o.handle.close = { o with course := o.course.act .close } := by
    simp [withHandle, handle, Course.act, OutputHandle.act]
  cases event with
  | leave fault => exact hclose
  | act action =>
    cases action with
    | close => exact hclose
    | send value => exact tell_attempt o value
    | requestShutdown => simp [step, withHandle, handle, Course.step, Course.act, OutputHandle.act]
  | chance chance =>
    cases chance with
    | mode mode => simp [step, withHandle, handle, Course.step, Course.befall]
    | wake fault => exact wake_eq o fault
    | settle => exact absurd rfl hsettle
    | expire => exact absurd rfl hexpire

theorem beginRelease_of_resting (hphase : ∀ broken, o.handle.phase ≠ .scheduled broken) :
    o.beginRelease = o := by
  unfold beginRelease
  split
  case h_3 => rfl
  all_goals
    rename_i hshape
    exact absurd hshape (hphase _)

theorem goOn_of_resting (hnone : o.handle.timeLeft = none) (raised : Option Raised) :
    o.goOn raised = o := by
  unfold goOn
  split
  case h_3 => rfl
  all_goals
    rename_i hshape
    simp [OutputHandle.timeLeft, hshape] at hnone

/-- **The course of an output is that of its handle**, whatever becomes of the transport. -/
theorem step_course (hheld : o.held = none) (event : Course.Event) :
    (o.step event).course = o.course.step event := by
  by_cases hsettle : event = .chance .settle
  · subst hsettle
    by_cases hphase : ∃ broken, o.handle.phase = .scheduled broken
    · obtain ⟨broken, hphase⟩ := hphase
      exact congrArg course (beginRelease_eq hheld hphase)
    · have hrest := OutputHandle.runRelease_of_not_scheduled (not_exists.1 hphase)
      rw [handle] at hrest
      rw [step, beginRelease_of_resting (not_exists.1 hphase)]
      simp [Course.step, Course.befall, hrest]
  by_cases hexpire : event = .chance .expire
  · subst hexpire
    show (o.goOn (some .timedOut)).course = o.course.befall .expire
    cases hphase : o.handle.phase with
    | notifying left =>
      rw [goOn_of_notifying hheld hphase caught_timedOut]
      rw [handle] at hphase
      simp [Course.befall, OutputHandle.expire, hphase, reach, withHandle, handle, noticesOf,
        Raised.delivery?]
    | releasing left =>
      rw [goOn_of_releasing hheld hphase caught_timedOut]
      rw [handle] at hphase
      simp [Course.befall, OutputHandle.expire, hphase, reach, withHandle, handle]
    | _ =>
      rw [goOn_of_resting (by simp [OutputHandle.timeLeft, hphase])]
      rw [handle] at hphase
      simp [Course.befall, OutputHandle.expire, hphase]
  rw [step_of_idle hsettle hexpire]

/-- What holds of an output at any time: nothing got out of it, and the phase of its handle tells
how often its connection was closed and how its release was over. -/
structure Sound (o : Output) : Prop where
  escaped : o.escaped = []
  held : o.held = none
  timely : o.handle.Timely
  ends : o.ends = o.handle.phase.ends

/-- **What one thing that happens does to an output**: it stays sound and never goes back, and none
that is open is closed and released at once. -/
structure Moves (o later : Output) : Prop where
  sound : later.Sound
  descends : later.handle.phase.ahead ≤ o.handle.phase.ahead
  opened : o.handle.phase = .active → 3 ≤ later.handle.phase.ahead

theorem Sound.stays (h : o.Sound) : o.Moves o :=
  ⟨h, Nat.le_refl _, fun hphase => by rw [hphase]; decide⟩

/-- A release under way that has come to some handle. -/
theorem Sound.reach (h : o.Sound) {later : OutputHandle} {notices : List Notice}
    (hunended : o.handle.phase.ends = []) (htimely : later.Timely) :
    (o.reach later notices).Sound :=
  ⟨h.escaped, h.held, htimely, by
    show o.ends ++ _ = later.phase.ends
    rw [h.ends, hunended]
    cases later.phase <;> simp [ClosePhase.ends]⟩

/-- **Once a release is scheduled it gets to run.** -/
theorem Sound.begins (h : o.Sound) {broken : Bool} (hphase : o.handle.phase = .scheduled broken) :
    o.beginRelease.Sound ∧ o.beginRelease.handle.phase.ahead ≤ 2 := by
  have hcloses : o.handle.transport.closes = 0 := by rw [h.timely.closes, hphase]; rfl
  obtain ⟨htimely, hahead⟩ := OutputHandle.runRelease_timely hphase hcloses
  rw [beginRelease_eq h.held hphase]
  exact ⟨h.reach (by rw [hphase]; rfl) htimely, hahead⟩

/-- **A hanging step that is over** leaves one step at most behind the terminal message, and none
behind the end of the connection. -/
theorem Sound.goesOn (h : o.Sound) {raised : Option Raised} (hraised : Caught raised) :
    (o.goOn raised).Sound ∧ (o.goOn raised).handle.phase.ahead ≤ o.handle.phase.ahead ∧
      (o.handle.phase.ahead ≤ 2 →
        (o.goOn raised).handle.phase.ahead ≤ o.handle.phase.ahead - 1) := by
  cases hphase : o.handle.phase with
  | notifying left =>
    have hcloses : o.handle.transport.closes = 0 := by rw [h.timely.closes, hphase]; rfl
    obtain ⟨htimely, hahead⟩ := OutputHandle.release_timely hcloses
    rw [goOn_of_notifying h.held hphase hraised]
    exact ⟨h.reach (by rw [hphase]; rfl) htimely, Nat.le_succ_of_le hahead, fun _ => hahead⟩
  | releasing left =>
    have hcloses : o.handle.transport.closes = 1 := by rw [h.timely.closes, hphase]; rfl
    rw [goOn_of_releasing h.held hphase hraised]
    exact ⟨h.reach (by rw [hphase]; rfl) ⟨hcloses, nofun⟩, Nat.zero_le 1, fun _ => Nat.le_refl 0⟩
  | _ =>
    rw [goOn_of_resting (by simp [OutputHandle.timeLeft, hphase]), hphase]
    exact ⟨h, Nat.le_refl _, by simp [ClosePhase.ahead]⟩

/-- A close schedules the release of an open handle, and does nothing else. -/
theorem close_phase (h : OutputHandle) :
    h.close.phase = h.phase ∨ h.phase = .active ∧ ∃ broken, h.close.phase = .scheduled broken := by
  unfold OutputHandle.close
  cases hphase : h.phase with
  | active => exact .inr ⟨rfl, _, rfl⟩
  | _ => exact .inl hphase

/-- Where no release runs, an output stays where it is or is closed. -/
theorem Sound.rests (h : o.Sound) {c : Course}
    (hcloses : c.handle.transport.closes = o.handle.transport.closes)
    (htime : c.handle.closeTimeout = o.handle.closeTimeout)
    (hphase : c.handle.phase = o.handle.phase ∨
      o.handle.phase = .active ∧ ∃ broken, c.handle.phase = .scheduled broken) :
    o.Moves { o with course := c } := by
  obtain hsame | ⟨hactive, broken, hscheduled⟩ := hphase
  · have hleft : c.handle.timeLeft = o.handle.timeLeft := by
      rw [OutputHandle.timeLeft, OutputHandle.timeLeft, hsame]
    refine ⟨⟨h.escaped, h.held, ⟨?_, fun left hsome => ?_⟩, ?_⟩, ?_, fun hopen => ?_⟩
    · show c.handle.transport.closes = c.handle.phase.closes
      rw [hcloses, hsame]
      exact h.timely.closes
    · show left = c.handle.closeTimeout
      rw [htime]
      exact h.timely.timed left (hleft ▸ hsome)
    · show o.ends = c.handle.phase.ends
      rw [hsame]
      exact h.ends
    · exact Nat.le_of_eq (congrArg ClosePhase.ahead hsame)
    · show 3 ≤ c.handle.phase.ahead
      rw [hsame, hopen]
      decide
  · have hends := h.ends
    have hbefore := h.timely.closes
    rw [hactive] at hends hbefore
    refine ⟨⟨h.escaped, h.held, ⟨?_, fun left hsome => ?_⟩, ?_⟩, ?_, fun _ => ?_⟩
    · show c.handle.transport.closes = c.handle.phase.closes
      rw [hcloses, hscheduled]
      exact hbefore
    · have hnone : c.handle.timeLeft = none := by simp [OutputHandle.timeLeft, hscheduled]
      exact absurd hsome (by simp [handle, hnone])
    · show o.ends = c.handle.phase.ends
      rw [hscheduled]
      exact hends
    · show c.handle.phase.ahead ≤ _
      rw [hscheduled, hactive]
      exact Nat.le_succ 3
    · show 3 ≤ c.handle.phase.ahead
      rw [hscheduled]
      exact Nat.le_refl 3

/-- **One event.** -/
theorem Sound.step (h : o.Sound) (event : Course.Event) : o.Moves (o.step event) := by
  by_cases hsettle : event = .chance .settle
  · subst hsettle
    by_cases hphase : ∃ broken, o.handle.phase = .scheduled broken
    · obtain ⟨broken, hphase⟩ := hphase
      obtain ⟨hsound, hahead⟩ := h.begins hphase
      refine ⟨hsound, ?_, by simp [hphase]⟩
      rw [hphase]
      exact Nat.le_succ_of_le hahead
    · rw [Output.step, beginRelease_of_resting (not_exists.1 hphase)]
      exact h.stays
  by_cases hexpire : event = .chance .expire
  · subst hexpire
    obtain ⟨hsound, hahead, _⟩ := h.goesOn caught_timedOut
    refine ⟨hsound, hahead, fun hphase => ?_⟩
    rw [Output.step, goOn_of_resting (by simp [OutputHandle.timeLeft, hphase]), hphase]
    decide
  · obtain ⟨hcloses, hphase⟩ := Course.step_of_idle (c := o.course) hsettle hexpire
    rw [step_of_idle hsettle hexpire]
    refine h.rests hcloses (Course.step_closeTimeout ..) ?_
    rw [hphase]
    split
    · exact close_phase o.handle
    · exact .inl rfl

/-- A hanging step that goes on before its time is up. -/
theorem Sound.resumes (h : o.Sound) (fault : Option OsFault) :
    o.Moves (o.goOn (fault.map .system)) := by
  obtain ⟨hsound, hahead, _⟩ := h.goesOn (caught_system fault)
  refine ⟨hsound, hahead, fun hphase => ?_⟩
  rw [goOn_of_resting (by simp [OutputHandle.timeLeft, hphase]), hphase]
  decide

/-- The output of a new handle. -/
theorem sound_fresh (client : Text) (closeTimeout : Double) (mode : TransportMode) :
    Sound { course := .fresh client closeTimeout mode } := ⟨rfl, rfl, ⟨rfl, nofun⟩, rfl⟩

theorem closed_iff {h : OutputHandle} : h.closed = true ↔ h.phase.ahead ≤ 3 := by
  unfold OutputHandle.closed
  cases h.phase <;> simp [ClosePhase.ahead]

/-- A hanging step that is over closes no handle and opens none. -/
theorem Sound.goOn_closed (h : o.Sound) {raised : Option Raised} (hraised : Caught raised) :
    (o.goOn raised).handle.closed = o.handle.closed := by
  obtain ⟨_, hdescends, _⟩ := h.goesOn hraised
  cases hclosed : o.handle.closed with
  | true => exact closed_iff.2 (Nat.le_trans hdescends (closed_iff.1 hclosed))
  | false =>
    have hactive : o.handle.phase = .active := by simpa [OutputHandle.closed] using hclosed
    rw [goOn_of_resting (by simp [OutputHandle.timeLeft, hactive]), hclosed]

/-- **A handle is closed by a close only, and for good.** -/
theorem Sound.step_closed (h : o.Sound) (event : Course.Event) :
    (o.step event).handle.closed = (o.handle.closed || event.closes) := by
  by_cases hsettle : event = .chance .settle
  · subst hsettle
    rw [show Course.Event.closes (.chance .settle) = false from rfl, Bool.or_false]
    by_cases hphase : ∃ broken, o.handle.phase = .scheduled broken
    · obtain ⟨broken, hphase⟩ := hphase
      rw [Output.step, closed_iff.2 (Nat.le_succ_of_le (h.begins hphase).2),
        closed_iff.2 (by rw [hphase]; exact Nat.le_refl 3)]
    · rw [Output.step, beginRelease_of_resting (not_exists.1 hphase)]
  by_cases hexpire : event = .chance .expire
  · subst hexpire
    exact (h.goOn_closed caught_timedOut).trans (Bool.or_false _).symm
  · obtain ⟨_, hphase⟩ := Course.step_of_idle (c := o.course) hsettle hexpire
    rw [step_of_idle hsettle hexpire]
    show (o.course.step event).handle.closed = _
    rw [OutputHandle.closed, hphase]
    cases event.closes with
    | false =>
      rw [if_neg Bool.false_ne_true, Bool.or_false]
      rfl
    | true => cases hold : o.course.handle.phase <;> simp [OutputHandle.close, hold]

/-- A closed handle whose release gets to run has two steps ahead of it at most. -/
theorem Sound.settles (h : o.Sound) (hclosed : o.handle.phase.ahead ≤ 3) :
    (o.step (.chance .settle)).handle.phase.ahead ≤ 2 := by
  show o.beginRelease.handle.phase.ahead ≤ 2
  by_cases hphase : ∃ broken, o.handle.phase = .scheduled broken
  · obtain ⟨broken, hphase⟩ := hphase
    exact (h.begins hphase).2
  · rw [beginRelease_of_resting (not_exists.1 hphase)]
    cases hcase : o.handle.phase with
    | active => simp [hcase, ClosePhase.ahead] at hclosed
    | scheduled broken => exact absurd ⟨broken, hcase⟩ hphase
    | _ => simp [ClosePhase.ahead]

/-- When the time of a hanging step is up, there is one less ahead. -/
theorem Sound.expires (h : o.Sound) {steps : Nat} (hsteps : o.handle.phase.ahead ≤ steps + 1)
    (hfew : steps ≤ 1) : (o.step (.chance .expire)).handle.phase.ahead ≤ steps := by
  obtain ⟨_, _, hless⟩ := h.goesOn caught_timedOut
  exact Nat.le_trans (hless (by omega)) (by omega)

/-- A handle with nothing ahead of it was closed once, and its release was over once, without a
failure. -/
theorem Sound.over (h : o.Sound) (hahead : o.handle.phase.ahead = 0) :
    o.ends = [none] ∧ o.handle.transport.closes = 1 := by
  have hphase : o.handle.phase = .released := by
    cases hcase : o.handle.phase with
    | released => rfl
    | _ => simp [hcase, ClosePhase.ahead] at hahead
  rw [h.ends, h.timely.closes, hphase]
  exact ⟨rfl, rfl⟩

/-- The handle was closed, and its release is not over. -/
def underWay (o : Output) : Bool := o.handle.closed && o.ends.isEmpty

theorem Sound.ends_length (h : o.Sound) :
    o.ends.length = if o.handle.phase.ahead = 0 then 1 else 0 := by
  rw [h.ends]
  cases o.handle.phase <;> rfl

theorem Sound.underWay_iff (h : o.Sound) :
    o.underWay = true ↔ 1 ≤ o.handle.phase.ahead ∧ o.handle.phase.ahead ≤ 3 := by
  have hends : o.ends.isEmpty = true ↔ 1 ≤ o.handle.phase.ahead := by
    rw [List.isEmpty_iff_length_eq_zero, h.ends_length]
    split <;> omega
  rw [underWay, Bool.and_eq_true, closed_iff, hends, and_comm]

end Output

end ControlChannel
