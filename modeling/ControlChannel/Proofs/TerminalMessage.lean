import ControlChannel.Output.Course
import ControlChannel.Proofs.HandlerStream

/-!
# The terminal message of an output handle

Whatever the owner of a handle does, whatever becomes of the transport and whenever the release gets
to run, the transport takes packets and then at most one terminal message.

A handle is first active, then scheduled for its release, then past it.  It takes packets in the
first of these phases and nothing in the last, and one event leads from the second to the last.

* `Course.Fails` — an event by which a send fails in the transport;
* `Course.step_active`, `Course.step_scheduled`, `Course.step_past` — one event in each phase;
* `Course.run_active`, `Course.run_scheduled`, `Course.run_past` — runs that stay in a phase;
* `Course.run_shape` — **every course of events is of one of three shapes**, one for each phase;
* `Course.Due` — a course in which the release gets to run with a terminal message to write;
* `Course.terminal_message_last` — **packets, then at most one terminal message, which is taken
  exactly if it is due and there is any time for it**.
-/

namespace ControlChannel

namespace Transport

theorem offer_of_fault {t : Transport} {fault : OsFault} (h : t.mode.write = some fault)
    (m : Message) : t.offer m = (.failed fault, t) := by
  simp [offer, h]

theorem offer_of_no_fault {t : Transport} (h : t.mode.write = none) (m : Message) :
    (t.offer m).2 = { t with taken := t.taken ++ [m] } := by
  unfold offer
  simp only [h]
  split
  · rfl
  · split <;> rfl

/-- A message is taken unless writing it fails. -/
theorem offer_taken (t : Transport) (m : Message) :
    (t.offer m).2.taken = t.taken ++ if t.mode.write = none then [m] else [] := by
  cases hwrite : t.mode.write with
  | none => simp [offer_of_no_fault hwrite]
  | some fault => simp [offer_of_fault hwrite]

end Transport

/-- Whether the release has got to run. -/
def ClosePhase.past : ClosePhase → Bool
  | active => false
  | scheduled _ => false
  | _ => true

namespace OutputHandle

/-- What is offered for a value is a packet. -/
theorem packetFor_eq_ok {value : Json} {m : Message} (h : packetFor value = .ok m) :
    ∃ text, m = .packet text := by
  have hpacket := packetFor_eq value
  cases hspoken : value.spoken? with
  | none =>
    rw [hspoken] at hpacket
    obtain ⟨fault, hfault⟩ := hpacket
    rw [hfault] at h
    cases h
  | some text =>
    rw [hspoken] at hpacket
    rw [show packetFor value = .ok (.packet text) from hpacket] at h
    cases h
    exact ⟨text, rfl⟩

/-- Closing the connection takes nothing, and the handle is past its release. -/
theorem release_past (h : OutputHandle) :
    h.release.phase.past = true ∧ h.release.transport.taken = h.transport.taken ∧
      h.release.closeTimeout = h.closeTimeout := by
  unfold release
  dsimp only
  split
  · exact ⟨rfl, rfl, rfl⟩
  · split <;> exact ⟨rfl, rfl, rfl⟩

/-- **A release that gets to run** writes the terminal message unless a send had failed before, there
is no time for it or writing fails. -/
theorem runRelease_of_scheduled {h : OutputHandle} {broken : Bool}
    (hphase : h.phase = .scheduled broken) :
    h.runRelease.1.phase.past = true ∧
      h.runRelease.1.transport.taken = h.transport.taken ++
        (if broken = false ∧ h.closeTimeout.isAtMostZero = false ∧ h.transport.mode.write = none
          then [.closeSocket] else []) ∧
      h.runRelease.1.closeTimeout = h.closeTimeout := by
  unfold runRelease
  cases broken with
  | true =>
    simp only [hphase]
    obtain ⟨hpast, htaken, htime⟩ := h.release_past
    exact ⟨hpast, by simpa using htaken, htime⟩
  | false =>
    simp only [hphase]
    unfold notify
    cases htime : h.closeTimeout.isAtMostZero with
    | true =>
      obtain ⟨hpast, htaken, hsame⟩ := h.release_past
      exact ⟨hpast, by simpa using htaken, hsame⟩
    | false =>
      have hoffer := h.transport.offer_taken .closeSocket
      simp only [Bool.false_eq_true, if_false, true_and]
      generalize h.transport.offer .closeSocket = outcome at hoffer ⊢
      obtain ⟨progress, transport⟩ := outcome
      obtain ⟨hpast, htaken, hsame⟩ := release_past { h with transport }
      cases progress with
      | stuck => exact ⟨rfl, hoffer, rfl⟩
      | done => exact ⟨hpast, htaken.trans hoffer, hsame⟩
      | failed fault => exact ⟨hpast, htaken.trans hoffer, hsame⟩

theorem runRelease_of_not_scheduled {h : OutputHandle}
    (hphase : ∀ broken, h.phase ≠ .scheduled broken) : h.runRelease = (h, []) := by
  unfold runRelease
  split
  case h_3 => rfl
  all_goals
    rename_i hshape
    exact absurd hshape (hphase _)

/-- The end of a hanging step takes nothing. -/
theorem expire_past {h : OutputHandle} (hpast : h.phase.past = true) :
    h.expire.1.phase.past = true ∧ h.expire.1.transport.taken = h.transport.taken := by
  unfold expire
  split
  · exact ⟨h.release_past.1, h.release_past.2.1⟩
  · exact ⟨rfl, rfl⟩
  · exact ⟨hpast, rfl⟩

theorem expire_of_not_past {h : OutputHandle} (hpast : h.phase.past = false) :
    h.expire = (h, []) := by
  unfold expire
  split
  case h_3 => rfl
  all_goals
    rename_i hshape
    rw [hshape] at hpast
    cases hpast

theorem expire_closeTimeout (h : OutputHandle) : h.expire.1.closeTimeout = h.closeTimeout := by
  unfold expire
  split
  · exact h.release_past.2.2
  · rfl
  · rfl

/-- Whether sending a value fails in the transport: it reaches the transport, which refuses it or
fails behind it. -/
def FailsSending (h : OutputHandle) (value : Json) : Prop :=
  h.closed = false ∧ h.broken = false ∧
    ∃ packet fault transport, packetFor value = .ok packet ∧
      h.transport.offer packet = (.failed fault, transport)

/-- **A send** hands over packets only, and only on a handle that is open and unbroken; it breaks the
handle exactly if it fails in the transport. -/
theorem send_cases (h : OutputHandle) (value : Json) :
    (h.send value).2.1.phase = h.phase ∧ (h.send value).2.1.closeTimeout = h.closeTimeout ∧
      (∃ texts : List Text,
        (h.send value).2.1.transport.taken = h.transport.taken ++ texts.map .packet ∧
          (h.closed = true → texts = [])) ∧
      ((h.send value).2.1.broken = true ↔ h.broken = true ∨ h.FailsSending value) := by
  unfold FailsSending send
  cases hclosed : h.closed with
  | true => exact ⟨rfl, rfl, ⟨[], by simp, fun _ => rfl⟩, by simp⟩
  | false =>
    cases hbroken : h.broken with
    | true => exact ⟨rfl, rfl, ⟨[], by simp, by simp⟩, by simp [hbroken]⟩
    | false =>
      simp only [Bool.false_eq_true, if_false, true_and, false_or, false_imp_iff, and_true]
      cases hpacket : packetFor value with
      | error fault => exact ⟨rfl, rfl, ⟨[], by simp⟩, by simp [hbroken]⟩
      | ok packet =>
        obtain ⟨text, rfl⟩ := packetFor_eq_ok hpacket
        have htexts : ∃ texts : List Text, (h.transport.offer (.packet text)).2.taken
            = h.transport.taken ++ texts.map .packet := by
          refine ⟨if h.transport.mode.write = none then [text] else [], ?_⟩
          rw [h.transport.offer_taken]
          split <;> rfl
        generalize hoffer : h.transport.offer (.packet text) = outcome at htexts
        obtain ⟨progress, transport⟩ := outcome
        simp only [hoffer]
        cases progress with
        | done => exact ⟨rfl, rfl, htexts, by simp [hoffer]⟩
        | stuck => exact ⟨rfl, rfl, htexts, by simp [hoffer]⟩
        | failed fault => exact ⟨rfl, rfl, htexts, by simp [hoffer]⟩

end OutputHandle

namespace Course

variable {c : Course} {event : Event}

/-! ### One event in each phase -/

/-- Whether an event makes a send fail in the transport: a send does, or one that hung. -/
def Fails (c : Course) : Event → Prop
  | .act (.send value) => c.handle.FailsSending value
  | .chance (.wake (some _)) => 0 < c.hanging
  | _ => False

/-- A send that hung and is over takes nothing more, and breaks the handle exactly if it fails. -/
theorem wake_cases (c : Course) (fault : Option OsFault) :
    (c.wake fault).handle.phase = c.handle.phase ∧ (c.wake fault).taken = c.taken ∧
      (c.wake fault).handle.closeTimeout = c.handle.closeTimeout ∧
      ((c.wake fault).handle.broken = true ↔
        c.handle.broken = true ∨ c.Fails (.chance (.wake fault))) := by
  unfold wake
  cases hhanging : c.hanging with
  | zero => cases fault <;> simp [Fails, hhanging]
  | succ hanging => cases fault <;> simp [Fails, hhanging, taken]

/-- No event changes the time that the release has. -/
theorem step_closeTimeout (c : Course) (event : Event) :
    (c.step event).handle.closeTimeout = c.handle.closeTimeout := by
  have hclose : c.handle.close.closeTimeout = c.handle.closeTimeout := by
    unfold OutputHandle.close
    split <;> rfl
  cases event with
  | leave fault => exact hclose
  | act action =>
    cases action with
    | send value => exact (c.handle.send_cases value).2.1
    | close => exact hclose
    | requestShutdown => rfl
  | chance chance =>
    cases chance with
    | mode mode => rfl
    | wake fault => exact (c.wake_cases fault).2.2.1
    | settle =>
      by_cases hphase : ∃ broken, c.handle.phase = .scheduled broken
      · obtain ⟨broken, hphase⟩ := hphase
        exact (OutputHandle.runRelease_of_scheduled hphase).2.2
      · have hrest := OutputHandle.runRelease_of_not_scheduled (not_exists.1 hphase)
        exact congrArg (fun outcome => outcome.1.closeTimeout) hrest
    | expire => exact c.handle.expire_closeTimeout

/-- A close of an active handle schedules the release, and tells it whether a send had failed. -/
theorem step_active_closes (hphase : c.handle.phase = .active) (hcloses : event.closes = true) :
    (c.step event).handle.phase = .scheduled c.handle.broken ∧ (c.step event).taken = c.taken := by
  have hstep : (c.step event).handle = c.handle.close := by
    cases event with
    | leave fault => rfl
    | chance chance => cases hcloses
    | act action =>
      cases action with
      | close => rfl
      | _ => cases hcloses
  rw [taken, hstep]
  simp [OutputHandle.close, hphase, taken]

/-- **Any other event on an active handle** hands over packets at most, and breaks the handle exactly
if a send fails by it. -/
theorem step_active (hphase : c.handle.phase = .active) (hopen : event.closes = false) :
    (c.step event).handle.phase = .active ∧
      (∃ texts : List Text, (c.step event).taken = c.taken ++ texts.map .packet) ∧
      ((c.step event).handle.broken = true ↔ c.handle.broken = true ∨ c.Fails event) := by
  have hquiet : (c.step event).handle.phase = c.handle.phase → (c.step event).taken = c.taken →
      (c.step event).handle.phase = .active ∧
        ∃ texts : List Text, (c.step event).taken = c.taken ++ texts.map .packet := by
    intro hsame htaken
    exact ⟨hsame.trans hphase, [], by rw [htaken, List.map_nil, List.append_nil]⟩
  rw [← and_assoc]
  cases event with
  | leave fault => cases hopen
  | act action =>
    cases action with
    | close => cases hopen
    | send value =>
      obtain ⟨hsame, _, ⟨texts, htaken, _⟩, hbroken⟩ := c.handle.send_cases value
      exact ⟨⟨hsame.trans hphase, texts, htaken⟩, hbroken⟩
    | requestShutdown => exact ⟨hquiet rfl rfl, (or_iff_left id).symm⟩
  | chance chance =>
    cases chance with
    | mode mode => exact ⟨hquiet rfl rfl, (or_iff_left id).symm⟩
    | wake fault =>
      obtain ⟨hsame, htaken, _, hbroken⟩ := c.wake_cases fault
      exact ⟨hquiet hsame htaken, hbroken⟩
    | settle =>
      have hrest : c.step (.chance .settle) = c := by
        simp [step, befall,
          OutputHandle.runRelease_of_not_scheduled (h := c.handle) (by simp [hphase])]
      rw [hrest] at hquiet ⊢
      exact ⟨hquiet rfl rfl, (or_iff_left id).symm⟩
    | expire =>
      have hrest : c.step (.chance .expire) = c := by
        simp [step, befall, OutputHandle.expire_of_not_past (h := c.handle) (by rw [hphase]; rfl)]
      rw [hrest] at hquiet ⊢
      exact ⟨hquiet rfl rfl, (or_iff_left id).symm⟩

/-- What a release has to write when it gets to run, told whether a send had failed before. -/
def terminal (c : Course) (broken : Bool) : List Message :=
  if broken = false ∧ c.handle.closeTimeout.isAtMostZero = false ∧
    c.handle.transport.mode.write = none then [.closeSocket] else []

/-- **A scheduled release that gets to run** writes the terminal message, if it may and can. -/
theorem step_settle {broken : Bool} (hphase : c.handle.phase = .scheduled broken) :
    (c.step (.chance .settle)).handle.phase.past = true ∧
      (c.step (.chance .settle)).taken = c.taken ++ c.terminal broken := by
  obtain ⟨hpast, htaken, _⟩ := OutputHandle.runRelease_of_scheduled hphase
  exact ⟨hpast, htaken⟩

/-- On a closed handle the owner hands nothing over and changes no phase. -/
theorem act_closed (hclosed : c.handle.closed = true) (action : Action) :
    (c.act action).handle.phase = c.handle.phase ∧ (c.act action).taken = c.taken := by
  cases action with
  | requestShutdown => exact ⟨rfl, rfl⟩
  | send value =>
    obtain ⟨hsame, _, ⟨texts, htaken, hnone⟩, _⟩ := c.handle.send_cases value
    rw [hnone hclosed, List.map_nil, List.append_nil] at htaken
    exact ⟨hsame, htaken⟩
  | close =>
    show c.handle.close.phase = _ ∧ c.handle.close.transport.taken = _
    unfold OutputHandle.close
    cases hphase : c.handle.phase with
    | active => simp [OutputHandle.closed, hphase] at hclosed
    | _ => exact ⟨hphase, rfl⟩

/-- Until then nothing that happens to a handle with a scheduled release hands anything over. -/
theorem step_scheduled {broken : Bool} (hphase : c.handle.phase = .scheduled broken)
    (hevent : event ≠ .chance .settle) :
    (c.step event).handle.phase = .scheduled broken ∧ (c.step event).taken = c.taken := by
  have hclosed : c.handle.closed = true := by simp [OutputHandle.closed, hphase]
  rw [← hphase]
  cases event with
  | act action => exact act_closed hclosed action
  | leave fault => exact act_closed hclosed .close
  | chance chance =>
    cases chance with
    | mode mode => exact ⟨rfl, rfl⟩
    | wake fault =>
      obtain ⟨hsame, htaken, _⟩ := c.wake_cases fault
      exact ⟨hsame, htaken⟩
    | settle => exact absurd rfl hevent
    | expire =>
      have hrest : c.step (.chance .expire) = c := by
        simp [step, befall, OutputHandle.expire_of_not_past (h := c.handle) (by rw [hphase]; rfl)]
      rw [hrest]
      exact ⟨rfl, rfl⟩

/-- **Behind the release nothing is handed over.** -/
theorem step_past (hpast : c.handle.phase.past = true) (event : Event) :
    (c.step event).handle.phase.past = true ∧ (c.step event).taken = c.taken := by
  have hclosed : c.handle.closed = true := by
    cases hphase : c.handle.phase with
    | active =>
      rw [hphase] at hpast
      cases hpast
    | _ => simp [OutputHandle.closed, hphase]
  cases event with
  | act action =>
    obtain ⟨hsame, htaken⟩ := act_closed hclosed action
    exact ⟨(congrArg _ hsame).trans hpast, htaken⟩
  | leave fault =>
    obtain ⟨hsame, htaken⟩ := act_closed hclosed .close
    exact ⟨(congrArg _ hsame).trans hpast, htaken⟩
  | chance chance =>
    cases chance with
    | mode mode => exact ⟨hpast, rfl⟩
    | wake fault =>
      obtain ⟨hsame, htaken, _⟩ := c.wake_cases fault
      exact ⟨(congrArg _ hsame).trans hpast, htaken⟩
    | settle =>
      have hrest : c.step (.chance .settle) = c := by
        have hnone : ∀ broken, c.handle.phase ≠ .scheduled broken := by
          intro broken hphase
          rw [hphase] at hpast
          cases hpast
        simp [step, befall, OutputHandle.runRelease_of_not_scheduled hnone]
      rw [hrest]
      exact ⟨hpast, rfl⟩
    | expire => exact OutputHandle.expire_past hpast

/-! ### Runs in each phase -/

/-- Whether some event of a run makes a send fail in the transport. -/
def FailsIn (c : Course) (events : List Event) : Prop :=
  ∃ seen event later, events = seen ++ event :: later ∧ (c.run seen).Fails event

theorem failsIn_cons {events : List Event} :
    c.FailsIn (event :: events) ↔ c.Fails event ∨ (c.step event).FailsIn events := by
  constructor
  · rintro ⟨seen, failing, later, hsplit, hfails⟩
    cases seen with
    | nil =>
      cases hsplit
      exact .inl hfails
    | cons first seen =>
      cases hsplit
      exact .inr ⟨seen, failing, later, rfl, hfails⟩
  · rintro (hfails | ⟨seen, failing, later, rfl, hfails⟩)
    · exact ⟨[], event, events, rfl, hfails⟩
    · exact ⟨event :: seen, failing, later, rfl, hfails⟩

theorem run_closeTimeout (c : Course) (events : List Event) :
    (c.run events).handle.closeTimeout = c.handle.closeTimeout := by
  induction events generalizing c with
  | nil => rfl
  | cons event events ih => rw [run_cons, ih, step_closeTimeout]

/-- Without a close an active handle stays so and hands packets over; it is broken exactly if a send
failed. -/
theorem run_active {events : List Event} (hphase : c.handle.phase = .active)
    (hopen : ∀ event ∈ events, event.closes = false) :
    (c.run events).handle.phase = .active ∧
      (∃ texts : List Text, (c.run events).taken = c.taken ++ texts.map .packet) ∧
      ((c.run events).handle.broken = true ↔ c.handle.broken = true ∨ c.FailsIn events) := by
  induction events generalizing c with
  | nil => exact ⟨hphase, ⟨[], by simp⟩, by simp [FailsIn]⟩
  | cons event events ih =>
    obtain ⟨hstep, ⟨texts, htaken⟩, hbroken⟩ := step_active hphase (hopen event List.mem_cons_self)
    obtain ⟨hrun, ⟨more, hmore⟩, hlater⟩ :=
      ih hstep fun later hmem => hopen later (List.mem_cons_of_mem event hmem)
    refine ⟨hrun, ⟨texts ++ more, ?_⟩, ?_⟩
    · rw [run_cons, hmore, htaken, List.map_append, List.append_assoc]
    · rw [run_cons, hlater, hbroken, failsIn_cons, or_assoc]

/-- A scheduled release stays scheduled until it gets to run. -/
theorem run_scheduled {events : List Event} {broken : Bool}
    (hphase : c.handle.phase = .scheduled broken) (hrest : .chance .settle ∉ events) :
    (c.run events).handle.phase = .scheduled broken ∧ (c.run events).taken = c.taken := by
  induction events generalizing c with
  | nil => exact ⟨hphase, rfl⟩
  | cons event events ih =>
    rw [List.mem_cons, not_or] at hrest
    obtain ⟨hstep, htaken⟩ := step_scheduled hphase (Ne.symm hrest.1)
    obtain ⟨hrun, hlater⟩ := ih hstep hrest.2
    exact ⟨hrun, hlater.trans htaken⟩

theorem run_past (hpast : c.handle.phase.past = true) (events : List Event) :
    (c.run events).handle.phase.past = true ∧ (c.run events).taken = c.taken := by
  induction events generalizing c with
  | nil => exact ⟨hpast, rfl⟩
  | cons event events ih =>
    obtain ⟨hstep, htaken⟩ := step_past hpast event
    obtain ⟨hrun, hlater⟩ := ih hstep
    exact ⟨hrun, hlater.trans htaken⟩

/-! ### Whole runs -/

/-- **Where a scheduled release gets to run**, the terminal message is handed over then, if it may and
can be, and nothing at any other time. -/
theorem run_settled {broken : Bool} (hphase : c.handle.phase = .scheduled broken)
    {between : List Event} (hrest : .chance .settle ∉ between) (after : List Event) :
    let settled := c.run (between ++ .chance .settle :: after)
    settled.handle.phase.past = true ∧
      settled.taken = c.taken ++ (c.run between).terminal broken := by
  intro settled
  obtain ⟨hscheduled, htaken⟩ := run_scheduled hphase hrest
  obtain ⟨hpast, hsettled⟩ := step_settle hscheduled
  obtain ⟨hend, hsame⟩ := run_past hpast after
  have hrun : settled = ((c.run between).step (.chance .settle)).run after := by
    simp [settled]
  rw [hrun]
  exact ⟨hend, by rw [hsame, hsettled, htaken]⟩

/-- The first event of a run with some property. -/
theorem exists_first (p : Event → Bool) (events : List Event) :
    (∀ event ∈ events, p event = false) ∨
      ∃ before event after, events = before ++ event :: after ∧ p event = true ∧
        ∀ other ∈ before, p other = false := by
  cases hfind : events.find? p with
  | none => exact .inl (by simpa using List.find?_eq_none.1 hfind)
  | some event =>
    obtain ⟨hevent, before, after, hsplit, hbefore⟩ := List.find?_eq_some_iff_append.1 hfind
    exact .inr ⟨before, event, after, hsplit, hevent, by simpa using hbefore⟩

/-- The terminal message is due in a course: no send has failed when the handle is closed for the
first time, and writing does not fail when the release gets to run. -/
def Due (c : Course) (events : List Event) : Prop :=
  ∃ before closing between after,
    events = before ++ closing :: (between ++ .chance .settle :: after) ∧
    (∀ event ∈ before, event.closes = false) ∧ closing.closes = true ∧ ¬ c.FailsIn before ∧
    .chance .settle ∉ between ∧
    (c.run (before ++ closing :: between)).handle.transport.mode.write = none

/-- **An open handle that is closed** has its release scheduled, which is told whether a send had
failed. -/
theorem run_closed (hphase : c.handle.phase = .active) (hunbroken : c.handle.broken = false)
    {before : List Event} (hbefore : ∀ event ∈ before, event.closes = false) {closing : Event}
    (hclosing : closing.closes = true) :
    ∃ broken, (broken = true ↔ c.FailsIn before) ∧
      (c.run (before ++ [closing])).handle.phase = .scheduled broken ∧
      ∃ texts : List Text, (c.run (before ++ [closing])).taken = c.taken ++ texts.map .packet := by
  obtain ⟨hactive, ⟨texts, htaken⟩, hbroken⟩ := run_active hphase hbefore
  obtain ⟨hscheduled, hsame⟩ := step_active_closes hactive hclosing
  rw [hunbroken, Bool.false_eq_true, false_or] at hbroken
  rw [run_append]
  exact ⟨_, hbroken, hscheduled, texts, hsame.trans htaken⟩

/-- **Every course is in one of three phases.**  An open handle has handed over packets; so has one
whose release is scheduled; and behind the release there may be the terminal message, if it was due
and there was any time for it. -/
theorem run_shape (hphase : c.handle.phase = .active) (hunbroken : c.handle.broken = false)
    (events : List Event) :
    ∃ texts : List Text,
      ((c.run events).handle.phase = .active ∧ (∀ event ∈ events, event.closes = false) ∧
        (c.run events).taken = c.taken ++ texts.map .packet) ∨
      ((∃ broken, (c.run events).handle.phase = .scheduled broken) ∧
        (c.run events).taken = c.taken ++ texts.map .packet) ∨
      ((c.run events).handle.phase.past = true ∧
        ((c.run events).taken = c.taken ++ texts.map .packet ∨
          (c.run events).taken = c.taken ++ texts.map .packet ++ [.closeSocket] ∧
            c.handle.closeTimeout.isAtMostZero = false ∧ c.Due events)) := by
  obtain hopen | ⟨before, closing, rest, rfl, hclosing, hbefore⟩ := exists_first Event.closes events
  · obtain ⟨hactive, ⟨texts, htaken⟩, _⟩ := run_active hphase hopen
    exact ⟨texts, .inl ⟨hactive, hopen, htaken⟩⟩
  obtain ⟨broken, hbroken, hscheduled, texts, htaken⟩ :=
    run_closed hphase hunbroken hbefore hclosing
  refine ⟨texts, .inr ?_⟩
  rw [List.append_cons, run_append]
  by_cases hsettle : .chance .settle ∈ rest
  · obtain ⟨between, after, rfl, hbetween⟩ := List.eq_append_cons_of_mem hsettle
    obtain ⟨hpast, hsettled⟩ := run_settled hscheduled hbetween after
    refine .inr ⟨hpast, ?_⟩
    rw [hsettled, htaken, terminal, ← run_append, run_closeTimeout]
    split
    case isFalse => exact .inl (List.append_nil _)
    case isTrue hdue =>
      obtain ⟨hkept, htime, hwrite⟩ := hdue
      refine .inr ⟨rfl, htime, before, closing, between, after, by simp, hbefore, hclosing, ?_,
        hbetween, ?_⟩
      · rw [← hbroken, hkept]
        exact Bool.false_ne_true
      · rwa [List.append_assoc, List.singleton_append] at hwrite
  · obtain ⟨hwaits, hsame⟩ := run_scheduled hscheduled hsettle
    exact .inl ⟨⟨broken, hwaits⟩, hsame.trans htaken⟩

/-- A terminal message that is due is handed over, if there is any time for it. -/
theorem mem_taken_of_due (hphase : c.handle.phase = .active) (hunbroken : c.handle.broken = false)
    (htime : c.handle.closeTimeout.isAtMostZero = false) {events : List Event}
    (hdue : c.Due events) : .closeSocket ∈ (c.run events).taken := by
  obtain ⟨before, closing, between, after, rfl, hbefore, hclosing, hkept, hbetween, hwrite⟩ := hdue
  obtain ⟨broken, hbroken, hscheduled, texts, htaken⟩ :=
    run_closed hphase hunbroken hbefore hclosing
  obtain ⟨_, hsettled⟩ := run_settled hscheduled hbetween after
  have hunfailed : broken = false := by
    rw [← Bool.not_eq_true, hbroken]
    exact hkept
  have hterminal : ((c.run (before ++ [closing])).run between).terminal broken
      = [.closeSocket] := by
    rw [terminal, ← run_append, run_closeTimeout, List.append_assoc, List.singleton_append]
    exact if_pos ⟨hunfailed, htime, hwrite⟩
  rw [List.append_cons, run_append, hsettled, hterminal]
  exact List.mem_append_right _ List.mem_cons_self

/-- On a handle that was closed, all that is handed over later is one terminal message. -/
theorem run_of_closed {broken : Bool} (hphase : c.handle.phase = .scheduled broken)
    (events : List Event) :
    (c.run events).taken = c.taken ∨ (c.run events).taken = c.taken ++ [.closeSocket] := by
  by_cases hsettle : .chance .settle ∈ events
  · obtain ⟨between, after, rfl, hbetween⟩ := List.eq_append_cons_of_mem hsettle
    obtain ⟨_, hsettled⟩ := run_settled hphase hbetween after
    rw [hsettled, terminal]
    split
    · exact .inr rfl
    · exact .inl (List.append_nil _)
  · exact .inl (run_scheduled hphase hsettle).2

theorem closeSocket_not_mem_packets (texts : List Text) :
    Message.closeSocket ∉ texts.map Message.packet := by simp

/-- **What the transport of a handle takes, in every course of events.**

* It takes packets, and then at most one terminal message.
* Behind a terminal message it takes nothing, and behind a close nothing else.
* It takes the terminal message exactly if this is due and there is any time for it: the handle was
  closed before any send had failed in the transport, the release has got to run since, and writing
  did not fail then. -/
theorem terminal_message_last (client : Text) (closeTimeout : Double) (mode : TransportMode)
    (events : List Event) :
    let start := fresh client closeTimeout mode
    (∃ (texts : List Text) (terminal : List Message),
      (start.run events).taken = texts.map .packet ++ terminal ∧
        (terminal = [] ∨ terminal = [.closeSocket])) ∧
    (∀ before after, events = before ++ after →
      (.closeSocket ∈ (start.run before).taken →
        (start.run events).taken = (start.run before).taken) ∧
      ((∃ event ∈ before, event.closes = true) →
        (start.run events).taken = (start.run before).taken ∨
          (start.run events).taken = (start.run before).taken ++ [.closeSocket])) ∧
    (.closeSocket ∈ (start.run events).taken ↔
      closeTimeout.isAtMostZero = false ∧ start.Due events) := by
  intro start
  have hshape : ∀ events, ∃ texts : List Text, _ := run_shape (c := start) rfl rfl
  refine ⟨?packets, ?order, ?exactly⟩
  case packets =>
    obtain ⟨texts, ⟨_, _, htaken⟩ | ⟨_, htaken⟩ | ⟨_, htaken | ⟨htaken, _⟩⟩⟩ := hshape events
    · exact ⟨texts, [], by rw [htaken, List.append_nil]; rfl, .inl rfl⟩
    · exact ⟨texts, [], by rw [htaken, List.append_nil]; rfl, .inl rfl⟩
    · exact ⟨texts, [], by rw [htaken, List.append_nil]; rfl, .inl rfl⟩
    · exact ⟨texts, [.closeSocket], htaken, .inr rfl⟩
  case order =>
    rintro before after rfl
    rw [run_append]
    obtain ⟨texts, ⟨_, hopen, htaken⟩ | ⟨⟨broken, hscheduled⟩, htaken⟩ | ⟨hpast, _⟩⟩ := hshape before
    · refine ⟨fun hmem => ?_, fun ⟨event, hmem, hcloses⟩ => ?_⟩
      · rw [htaken] at hmem
        exact absurd hmem (closeSocket_not_mem_packets texts)
      · rw [hopen event hmem] at hcloses
        cases hcloses
    · refine ⟨fun hmem => ?_, fun _ => run_of_closed hscheduled after⟩
      rw [htaken] at hmem
      exact absurd hmem (closeSocket_not_mem_packets texts)
    · have hsame := (run_past hpast after).2
      exact ⟨fun _ => hsame, fun _ => .inl hsame⟩
  case exactly =>
    refine ⟨fun hmem => ?_, fun ⟨htime, hdue⟩ => mem_taken_of_due rfl rfl htime hdue⟩
    obtain ⟨texts, ⟨_, _, htaken⟩ | ⟨_, htaken⟩ | ⟨_, htaken | ⟨_, hdue⟩⟩⟩ := hshape events
    · rw [htaken] at hmem
      exact absurd hmem (closeSocket_not_mem_packets texts)
    · rw [htaken] at hmem
      exact absurd hmem (closeSocket_not_mem_packets texts)
    · rw [htaken] at hmem
      exact absurd hmem (closeSocket_not_mem_packets texts)
    · exact hdue

/-- **A release that has no time writes no terminal message**, though it is due: the handle is closed
over a transport without faults, and the release gets to run. -/
theorem hurried_release_untold :
    let start := fresh "ctl_1" (.ofInt 0) {}
    let events : List Event := [.act .close, .chance .settle]
    ¬ (.closeSocket ∈ (start.run events).taken ↔ start.Due events) := by
  intro start events hiff
  have hdue : start.Due events := by
    refine ⟨[], .act .close, [], [], rfl, by simp, rfl, ?_, by simp, rfl⟩
    rintro ⟨seen, event, later, hsplit, _⟩
    simp at hsplit
  have hmem := hiff.2 hdue
  revert hmem
  decide

end Course

end ControlChannel
