import ControlChannel.Proofs.TerminalMessage
import Mathlib.Data.List.Induction

/-!
# The account of what was sent

An owner sends one value after the other, each when the one before is over.  What it was told of
them agrees with what the transport took: the packets of the sends that told so, and at most one
more, which was handed over before draining failed.

* `Course.Sends`, `Course.act_sends` — all that a send can come to;
* `Course.InTurn` — the owner waits for each of its sends;
* `Course.written`, `Course.packets` — the values that were told to be written, and the texts that
  were handed over;
* `Course.Lost`, `Course.Lost.run` — a handle that hands over nothing any more;
* `Course.Balance`, `Course.balance_run` — **the account at any time**: it is even, a send hangs
  behind its packet, or the last packet was overdrawn;
* `Course.sends_accounted` — what was counted, told and handed over.
-/

namespace ControlChannel

/-- The text of a packet. -/
def Message.packetText? : Message → Option Text
  | .packet text => some text
  | _ => none

namespace Course

variable {c : Course} {event : Event} {events : List Event} {value : Json} {text : Text}

/-! ### What a send comes to -/

/-- The handle of a course that has handed over one more packet. -/
def handing (c : Course) (text : Text) : OutputHandle :=
  { c.handle with
    transport := { c.handle.transport with taken := c.handle.transport.taken ++ [.packet text] } }

/-- All that a send can come to. -/
inductive Sends (c : Course) (value : Json) : Course → Prop
  /-- The handle takes nothing any more, or no packet holds the value. -/
  | ignored (notices : List Notice) (h : c.handle.connected = false ∨ value.spoken? = none) :
      Sends c value { c with results := c.results ++ [false], notices := c.notices ++ notices }
  | refused (fault : OsFault) (notices : List Notice) (connected : c.handle.connected = true)
      (write : c.handle.transport.mode.write = some fault) :
      Sends c value
        { c with
          handle := { c.handle with broken := true }
          results := c.results ++ [false]
          notices := c.notices ++ notices }
  /-- Draining fails behind the packet. -/
  | spilt (text : Text) (fault : OsFault) (notices : List Notice)
      (connected : c.handle.connected = true) (spoken : value.spoken? = some text)
      (write : c.handle.transport.mode.write = none)
      (flows : c.handle.transport.mode.stalls = false)
      (drain : c.handle.transport.mode.drain = some fault) :
      Sends c value
        { c with
          handle := { c.handing text with broken := true }
          results := c.results ++ [false]
          notices := c.notices ++ notices }
  | written (text : Text) (connected : c.handle.connected = true)
      (spoken : value.spoken? = some text) :
      Sends c value
        { c with
          handle := { c.handing text with packetsSent := c.handle.packetsSent + 1 }
          results := c.results ++ [true] }
  | hangs (text : Text) (connected : c.handle.connected = true)
      (spoken : value.spoken? = some text) :
      Sends c value { c with handle := c.handing text, hanging := c.hanging + 1 }

theorem connected_eq_true_iff {h : OutputHandle} :
    h.connected = true ↔ h.phase = .active ∧ h.broken = false := by
  simp [OutputHandle.connected, OutputHandle.closed]

/-- A send on a handle that is open and unbroken offers the packet of its value. -/
theorem send_of_connected {h : OutputHandle} (connected : h.connected = true)
    (spoken : value.spoken? = some text) :
    h.send value =
      match h.transport.offer (.packet text) with
      | (.done, transport) =>
        (some true, { h with transport, packetsSent := h.packetsSent + 1 }, [])
      | (.failed fault, transport) =>
        (some false, { h with transport, broken := true }, [.sendFailed h.client fault])
      | (.stuck, transport) => (none, { h with transport }, []) := by
  obtain ⟨hactive, hunbroken⟩ := connected_eq_true_iff.1 connected
  have hpacket := OutputHandle.packetFor_eq value
  rw [spoken] at hpacket
  simp only [OutputHandle.send, OutputHandle.closed, hactive, hunbroken, hpacket]
  rfl

/-- A value that no packet holds, or a handle that takes nothing any more: a send tells so and
leaves the handle as it is. -/
theorem send_of_ignored {h : OutputHandle} (ignored : h.connected = false ∨ value.spoken? = none) :
    ∃ notices, h.send value = (some false, h, notices) := by
  unfold OutputHandle.send
  cases hclosed : h.closed with
  | true => exact ⟨_, rfl⟩
  | false =>
    cases hbroken : h.broken with
    | true => exact ⟨_, rfl⟩
    | false =>
      obtain hconnected | hspoken := ignored
      · simp [OutputHandle.connected, hclosed, hbroken] at hconnected
      · have hpacket := OutputHandle.packetFor_eq value
        rw [hspoken] at hpacket
        obtain ⟨fault, hfault⟩ := hpacket
        rw [hfault]
        exact ⟨_, rfl⟩

/-- **A send comes to one of five things.** -/
theorem act_sends (c : Course) (value : Json) : c.Sends value (c.act (.send value)) := by
  have hignore : c.handle.connected = false ∨ value.spoken? = none →
      c.Sends value (c.act (.send value)) := by
    intro hignored
    obtain ⟨notices, hsend⟩ := send_of_ignored hignored
    have hact : c.act (.send value) =
        { c with results := c.results ++ [false], notices := c.notices ++ notices } := by
      simp [act, OutputHandle.act, hsend]
    exact hact ▸ .ignored notices hignored
  cases hconnected : c.handle.connected with
  | false => exact hignore (.inl hconnected)
  | true =>
    cases hspoken : value.spoken? with
    | none => exact hignore (.inr hspoken)
    | some text =>
      have hsend := send_of_connected hconnected hspoken
      cases hwrite : c.handle.transport.mode.write with
      | some fault =>
        rw [Transport.offer_of_fault hwrite] at hsend
        have hact : c.act (.send value) =
            { c with
              handle := { c.handle with broken := true }
              results := c.results ++ [false]
              notices := c.notices ++ [.sendFailed c.handle.client fault] } := by
          simp [act, OutputHandle.act, hsend]
        exact hact ▸ .refused fault _ hconnected hwrite
      | none =>
        cases hstalls : c.handle.transport.mode.stalls with
        | true =>
          have hact : c.act (.send value) =
              { c with handle := c.handing text, hanging := c.hanging + 1 } := by
            simp [act, OutputHandle.act, hsend, Transport.offer, hwrite, hstalls, handing]
          exact hact ▸ .hangs text hconnected hspoken
        | false =>
          cases hdrain : c.handle.transport.mode.drain with
          | some fault =>
            have hact : c.act (.send value) =
                { c with
                  handle := { c.handing text with broken := true }
                  results := c.results ++ [false]
                  notices := c.notices ++ [.sendFailed c.handle.client fault] } := by
              simp [act, OutputHandle.act, hsend, Transport.offer, hwrite, hstalls, hdrain, handing]
            exact hact ▸ .spilt text fault _ hconnected hspoken hwrite hstalls hdrain
          | none =>
            have hact : c.act (.send value) =
                { c with
                  handle := { c.handing text with packetsSent := c.handle.packetsSent + 1 }
                  results := c.results ++ [true] } := by
              simp [act, OutputHandle.act, hsend, Transport.offer, hwrite, hstalls, hdrain, handing]
            exact hact ▸ .written text hconnected hspoken

/-! ### What was told and what was handed over -/

/-- Whether an event is done by the owner. -/
def Event.isOwners : Event → Bool
  | .act _ => true
  | .leave _ => true
  | .chance _ => false

/-- The owner does nothing while a send hangs. -/
def InTurn (c : Course) : List Event → Prop
  | [] => True
  | event :: events => (event.isOwners = true → c.hanging = 0) ∧ (c.step event).InTurn events

theorem inTurn_concat : c.InTurn (events ++ [event]) ↔
    c.InTurn events ∧ (event.isOwners = true → (c.run events).hanging = 0) := by
  induction events generalizing c with
  | nil => simp [InTurn]
  | cons first events ih => simp only [List.cons_append, InTurn, ih, run_cons, and_assoc]

/-- The values that are sent, in order. -/
def sends (events : List Event) : List Json :=
  events.filterMap fun
    | .act action => action.sent?
    | _ => none

/-- The values whose sends told that they were written. -/
def written (sent : List Json) (results : List Bool) : List Json :=
  ((sent.zip results).filter (·.2)).map (·.1)

theorem written_append {sent more : List Json} {results told : List Bool}
    (h : results.length = sent.length) :
    written (sent ++ more) (results ++ told) = written sent results ++ written more told := by
  simp [written, List.zip_append h.symm]

/-- The texts that were handed over, in order. -/
def packets (c : Course) : List Text := c.taken.filterMap Message.packetText?

theorem packets_of_terminal {c' : Course} {terminal : List Message}
    (h : c'.taken = c.taken ++ terminal) (hterminal : ∀ m ∈ terminal, m = .closeSocket) :
    c'.packets = c.packets := by
  have hnone : terminal.filterMap Message.packetText? = [] := by
    rw [List.filterMap_eq_nil_iff]
    rintro m hm
    rw [hterminal m hm]
    rfl
  rw [packets, h, List.filterMap_append, hnone, List.append_nil, packets]

/-- **What is neither a send nor the end of one** tells nothing and hands no packet over. -/
theorem step_quiet (hsend : ∀ value, event ≠ .act (.send value))
    (hwake : ∀ fault, event ≠ .chance (.wake fault)) :
    (c.step event).results = c.results ∧ (c.step event).hanging = c.hanging ∧
      (c.step event).packets = c.packets := by
  have hclose : c.handle.close.transport = c.handle.transport := by
    unfold OutputHandle.close
    split <;> rfl
  have hclosed : (c.act .close).packets = c.packets := by
    show List.filterMap _ c.handle.close.transport.taken = _
    rw [hclose]
    rfl
  cases event with
  | leave fault => exact ⟨List.append_nil _, rfl, hclosed⟩
  | act action =>
    cases action with
    | send value => exact absurd rfl (hsend value)
    | close => exact ⟨List.append_nil _, rfl, hclosed⟩
    | requestShutdown => exact ⟨List.append_nil _, rfl, rfl⟩
  | chance chance =>
    cases chance with
    | wake fault => exact absurd rfl (hwake fault)
    | mode mode => exact ⟨rfl, rfl, rfl⟩
    | settle =>
      refine ⟨rfl, rfl, ?_⟩
      by_cases hphase : ∃ broken, c.handle.phase = .scheduled broken
      · obtain ⟨broken, hphase⟩ := hphase
        refine packets_of_terminal (step_settle hphase).2 fun m hm => ?_
        unfold terminal at hm
        split at hm
        · exact List.mem_singleton.1 hm
        · cases hm
      · have hrest := OutputHandle.runRelease_of_not_scheduled (not_exists.1 hphase)
        show List.filterMap _ c.handle.runRelease.1.transport.taken = _
        rw [hrest]
        rfl
    | expire =>
      refine ⟨rfl, rfl, ?_⟩
      show List.filterMap _ c.handle.expire.1.transport.taken = _
      cases hpast : c.handle.phase.past with
      | true => rw [(OutputHandle.expire_past hpast).2]; rfl
      | false => rw [OutputHandle.expire_of_not_past hpast]; rfl

/-- The end of a send where none hangs. -/
theorem wake_of_awake (h : c.hanging = 0) (fault : Option OsFault) : c.wake fault = c := by
  simp [wake, h]

/-! ### Handles that are lost -/

/-- Closing the connection neither mends a handle nor counts a packet. -/
theorem release_keeps (h : OutputHandle) :
    h.release.broken = h.broken ∧ h.release.packetsSent = h.packetsSent := by
  unfold OutputHandle.release
  dsimp only
  split
  · exact ⟨rfl, rfl⟩
  · split <;> exact ⟨rfl, rfl⟩

/-- Nor does a release that gets to run. -/
theorem runRelease_keeps (h : OutputHandle) :
    h.runRelease.1.broken = h.broken ∧ h.runRelease.1.packetsSent = h.packetsSent := by
  unfold OutputHandle.runRelease
  split
  · exact release_keeps h
  · unfold OutputHandle.notify
    split
    · exact release_keeps h
    · split
      · exact release_keeps _
      · exact release_keeps _
      · exact ⟨rfl, rfl⟩
  · exact ⟨rfl, rfl⟩

/-- Nor does the end of a hanging step. -/
theorem expire_keeps (h : OutputHandle) :
    h.expire.1.broken = h.broken ∧ h.expire.1.packetsSent = h.packetsSent := by
  unfold OutputHandle.expire
  split
  · exact release_keeps h
  · exact ⟨rfl, rfl⟩
  · exact ⟨rfl, rfl⟩

theorem ne_scheduled_of_past {phase : ClosePhase} (h : phase.past = true) (broken : Bool) :
    phase ≠ .scheduled broken := by
  rintro rfl
  cases h

/-- The handle was broken before its release was scheduled, if it is, and no send hangs. -/
structure Lost (c : Course) : Prop where
  broken : c.handle.broken = true
  unheard : c.handle.phase ≠ .scheduled false
  awake : c.hanging = 0

theorem Lost.not_connected (lost : c.Lost) : c.handle.connected = false := by
  simp [OutputHandle.connected, lost.broken]

/-- A send on a lost handle is dropped. -/
theorem Lost.act_send (lost : c.Lost) (value : Json) :
    ∃ notices, c.act (.send value) =
      { c with results := c.results ++ [false], notices := c.notices ++ notices } := by
  have hsends := act_sends c value
  have hnot := lost.not_connected
  generalize c.act (.send value) = c' at hsends
  cases hsends with
  | ignored notices => exact ⟨notices, rfl⟩
  | refused _ _ connected => exact absurd connected (by simp [hnot])
  | spilt _ _ _ connected => exact absurd connected (by simp [hnot])
  | written _ connected => exact absurd connected (by simp [hnot])
  | hangs _ connected => exact absurd connected (by simp [hnot])

/-- **A lost handle stays so, and hands nothing over.** -/
theorem Lost.step (lost : c.Lost) (event : Event) :
    (c.step event).Lost ∧ (c.step event).taken = c.taken := by
  have hclose : c.handle.close.broken = true ∧ c.handle.close.phase ≠ .scheduled false ∧
      c.handle.close.transport = c.handle.transport := by
    unfold OutputHandle.close
    split
    · exact ⟨lost.broken, by simp [lost.broken], rfl⟩
    · exact ⟨lost.broken, lost.unheard, rfl⟩
  have hclosed : (c.act .close).Lost ∧ (c.act .close).taken = c.taken :=
    ⟨⟨hclose.1, hclose.2.1, lost.awake⟩, congrArg Transport.taken hclose.2.2⟩
  cases event with
  | leave fault => exact hclosed
  | act action =>
    cases action with
    | send value =>
      obtain ⟨notices, hact⟩ := lost.act_send value
      show (c.act (.send value)).Lost ∧ _
      rw [Course.step, hact]
      exact ⟨⟨lost.broken, lost.unheard, lost.awake⟩, rfl⟩
    | close => exact hclosed
    | requestShutdown => exact ⟨⟨lost.broken, lost.unheard, lost.awake⟩, rfl⟩
  | chance chance =>
    cases chance with
    | mode mode => exact ⟨⟨lost.broken, lost.unheard, lost.awake⟩, rfl⟩
    | wake fault =>
      show (c.wake fault).Lost ∧ (c.wake fault).taken = c.taken
      rw [wake_of_awake lost.awake]
      exact ⟨lost, rfl⟩
    | settle =>
      by_cases hphase : c.handle.phase = .scheduled true
      · have hrun : c.handle.runRelease = (c.handle.release, []) := by
          simp [OutputHandle.runRelease, hphase]
        obtain ⟨hpast, htaken, _⟩ := c.handle.release_past
        simp only [Course.step, befall, hrun, taken]
        exact ⟨⟨(release_keeps c.handle).1.trans lost.broken, ne_scheduled_of_past hpast false,
          lost.awake⟩, htaken⟩
      · have hnone : ∀ broken, c.handle.phase ≠ .scheduled broken := by
          intro broken
          cases broken with
          | true => exact hphase
          | false => exact lost.unheard
        simp only [Course.step, befall, OutputHandle.runRelease_of_not_scheduled hnone, taken]
        exact ⟨⟨lost.broken, lost.unheard, lost.awake⟩, trivial⟩
    | expire =>
      cases hpast : c.handle.phase.past with
      | true =>
        obtain ⟨hlater, htaken⟩ := OutputHandle.expire_past hpast
        exact ⟨⟨(expire_keeps c.handle).1.trans lost.broken, ne_scheduled_of_past hlater false,
          lost.awake⟩, htaken⟩
      | false =>
        simp only [Course.step, befall, OutputHandle.expire_of_not_past hpast, taken]
        exact ⟨⟨lost.broken, lost.unheard, lost.awake⟩, trivial⟩

theorem Lost.run (lost : c.Lost) (events : List Event) :
    (c.run events).Lost ∧ (c.run events).taken = c.taken := by
  induction events generalizing c with
  | nil => exact ⟨lost, rfl⟩
  | cons event events ih =>
    obtain ⟨hlost, htaken⟩ := lost.step event
    obtain ⟨hlater, hsame⟩ := ih hlost
    exact ⟨hlater, hsame.trans htaken⟩

/-! ### The account -/

/-- Draining what a send has handed over fails in an event: at once, or after it hung. -/
def FailsDraining (c : Course) : Event → Prop
  | .act (.send _) =>
    let mode := c.handle.transport.mode
    mode.write = none ∧ mode.stalls = false ∧ mode.drain.isSome = true
  | .chance (.wake (some _)) => 0 < c.hanging
  | _ => False

/-- **A packet is overdrawn**: draining fails when it has been handed over, which breaks the handle
that was open and unbroken, and its send, the last one so far, tells that it was not written. -/
def Overdraws (c : Course) (events : List Event) (text : Text) : Prop :=
  ∃ before event after value, events = before ++ event :: after ∧
    (c.run before).handle.connected = true ∧ (c.run before).FailsDraining event ∧
    (sends (before ++ [event])).getLast? = some value ∧ value.spoken? = some text ∧
    (c.run (before ++ [event])).results = (c.run before).results ++ [false] ∧
    (c.run (before ++ [event])).handle.connected = false

theorem Overdraws.concat (h : c.Overdraws events text) (event : Event) :
    c.Overdraws (events ++ [event]) text := by
  obtain ⟨before, failing, after, value, rfl, h⟩ := h
  exact ⟨before, failing, after ++ [event], value, by simp, h⟩

/-- The sends that told they were written are those of some texts. -/
def Tells (sent : List Json) (results : List Bool) (texts : List Text) : Prop :=
  (written sent results).map Json.spoken? = texts.map some

/-- A send that fails adds no text to those that were told. -/
theorem Tells.fails {sent : List Json} {results : List Bool} {texts : List Text}
    (h : Tells sent results texts) (told : results.length = sent.length) (value : Json) :
    Tells (sent ++ [value]) (results ++ [false]) texts := by
  rw [Tells, written_append told]
  exact (congrArg _ (List.append_nil _)).trans h

/-- A send that tells it was written adds its text. -/
theorem Tells.succeeds {sent : List Json} {results : List Bool} {texts : List Text}
    (h : Tells sent results texts) (told : results.length = sent.length)
    (spoken : value.spoken? = some text) :
    Tells (sent ++ [value]) (results ++ [true]) (texts ++ [text]) := by
  rw [Tells, written_append told, List.map_append, List.map_append, h]
  simp [written, spoken]

/-- What was told of the sends of a course against what it handed over. -/
inductive Balance (c : Course) (events : List Event) : Prop
  /-- What was handed over is what was told. -/
  | even (settled : (c.run events).hanging = 0)
      (told : (c.run events).results.length = (sends events).length)
      (tells : Tells (sends events) (c.run events).results (c.run events).packets)
  /-- The last send hangs behind its packet. -/
  | awaited (before : List Json) (value : Json) (texts : List Text) (text : Text)
      (connected : (c.run events).handle.connected = true) (hangs : (c.run events).hanging = 1)
      (last : sends events = before ++ [value]) (spoken : value.spoken? = some text)
      (told : (c.run events).results.length = before.length)
      (tells : Tells before (c.run events).results texts)
      (handed : (c.run events).packets = texts ++ [text])
  /-- The last packet was handed over by a send that failed. -/
  | overdrawn (texts : List Text) (text : Text) (lost : (c.run events).Lost)
      (told : (c.run events).results.length = (sends events).length)
      (tells : Tells (sends events) (c.run events).results texts)
      (handed : (c.run events).packets = texts ++ [text])
      (unended : .closeSocket ∉ (c.run events).taken) (overdraws : c.Overdraws events text)

theorem sends_concat : sends (events ++ [event]) = sends events ++ sends [event] :=
  List.filterMap_append

theorem run_concat : c.run (events ++ [event]) = (c.run events).step event := by simp

/-- What is no send adds none. -/
theorem sends_of_quiet (hsend : ∀ value, event ≠ .act (.send value)) :
    sends (events ++ [event]) = sends events := by
  rw [sends_concat]
  cases event with
  | leave fault => exact List.append_nil _
  | chance chance => exact List.append_nil _
  | act action =>
    cases action with
    | send value => exact absurd rfl (hsend value)
    | _ => exact List.append_nil _

/-- The packet of a send is handed over behind the others. -/
theorem packets_handing (c : Course) (text : Text) :
    (c.handing text).transport.taken.filterMap Message.packetText? = c.packets ++ [text] :=
  List.filterMap_append

/-- **An overdrawn account stays so.** -/
theorem Balance.stays {texts : List Text} (lost : (c.run events).Lost)
    (told : (c.run events).results.length = (sends events).length)
    (tells : Tells (sends events) (c.run events).results texts)
    (handed : (c.run events).packets = texts ++ [text])
    (unended : .closeSocket ∉ (c.run events).taken) (overdraws : c.Overdraws events text)
    (event : Event) : c.Balance (events ++ [event]) := by
  obtain ⟨hlost, htaken⟩ := lost.step event
  have hpackets : ((c.run events).step event).packets = (c.run events).packets :=
    congrArg (List.filterMap Message.packetText?) htaken
  rw [← run_concat] at hlost htaken hpackets
  have hends : .closeSocket ∉ (c.run (events ++ [event])).taken := by rwa [htaken]
  by_cases hsend : ∃ value, event = .act (.send value)
  · obtain ⟨value, rfl⟩ := hsend
    obtain ⟨notices, hact⟩ := lost.act_send value
    have hresults : (c.run (events ++ [.act (.send value)])).results
        = (c.run events).results ++ [false] := by
      rw [run_concat, Course.step, hact]
    have hsent : sends (events ++ [.act (.send value)]) = sends events ++ [value] := sends_concat
    refine .overdrawn texts text hlost ?_ ?_ (hpackets.trans handed) hends (overdraws.concat _)
    · rw [hresults, hsent, List.length_append, List.length_append, told]
      rfl
    · rw [hresults, hsent]
      exact tells.fails told value
  · have hquiet : ∀ value, event ≠ .act (.send value) := fun value h => hsend ⟨value, h⟩
    have hresults : (c.run (events ++ [event])).results = (c.run events).results := by
      rw [run_concat]
      by_cases hwake : ∃ fault, event = .chance (.wake fault)
      · obtain ⟨fault, rfl⟩ := hwake
        exact congrArg Course.results (wake_of_awake lost.awake fault)
      · exact (step_quiet hquiet (not_exists.1 hwake)).1
    refine .overdrawn texts text hlost ?_ ?_ (hpackets.trans handed) hends (overdraws.concat _)
    · rw [hresults, sends_of_quiet hquiet]
      exact told
    · rw [hresults, sends_of_quiet hquiet]
      exact tells

/-- **A send keeps the account.**  None hangs before it, so that is told what was handed over. -/
theorem Balance.send (value : Json) (settled : (c.run events).hanging = 0)
    (told : (c.run events).results.length = (sends events).length)
    (tells : Tells (sends events) (c.run events).results (c.run events).packets)
    (unended : (c.run events).handle.phase = .active → .closeSocket ∉ (c.run events).taken) :
    c.Balance (events ++ [.act (.send value)]) := by
  have hsent : sends (events ++ [.act (.send value)]) = sends events ++ [value] := sends_concat
  have hlength : ∀ result : Bool, ((c.run events).results ++ [result]).length
      = (sends events ++ [value]).length := by
    intro result
    rw [List.length_append, List.length_append, told]
    rfl
  have hsends := act_sends (c.run events) value
  have hrun : c.run (events ++ [.act (.send value)]) = (c.run events).act (.send value) :=
    run_concat
  rw [← hrun] at hsends
  generalize hlater : c.run (events ++ [.act (.send value)]) = later at hsends hrun
  cases hsends with
  | ignored notices =>
    refine .even (by rw [hlater]; exact settled) ?_ ?_
    · rw [hlater, hsent]
      exact hlength false
    · rw [hlater, hsent]
      exact tells.fails told value
  | refused fault notices connected write =>
    refine .even (by rw [hlater]; exact settled) ?_ ?_
    · rw [hlater, hsent]
      exact hlength false
    · rw [hlater, hsent]
      exact tells.fails told value
  | spilt text fault notices connected spoken write flows drain =>
    obtain ⟨hactive, hunbroken⟩ := connected_eq_true_iff.1 connected
    refine .overdrawn (c.run events).packets text ?lost ?told ?tells ?handed ?unended
      ⟨events, _, [], value, rfl, connected, ⟨write, flows, by rw [drain]; rfl⟩, ?last, spoken,
        ?fails, ?gone⟩
    case last => rw [hsent, List.getLast?_concat]
    all_goals rw [hlater]
    case lost =>
      refine ⟨rfl, ?_, settled⟩
      show (c.run events).handle.phase ≠ _
      rw [hactive]
      nofun
    case told =>
      rw [hsent]
      exact hlength false
    case tells =>
      rw [hsent]
      exact tells.fails told value
    case handed => exact packets_handing (c.run events) text
    case unended => simpa [taken, handing] using unended hactive
    case gone => simp [OutputHandle.connected]
  | written text connected spoken =>
    refine .even (by rw [hlater]; exact settled) ?_ ?_
    · rw [hlater, hsent]
      exact hlength true
    · have hpackets : (c.run (events ++ [.act (.send value)])).packets
          = (c.run events).packets ++ [text] := by
        rw [hlater]
        exact packets_handing (c.run events) text
      rw [hpackets, hlater, hsent]
      exact tells.succeeds told spoken
  | hangs text connected spoken =>
    refine .awaited (sends events) value (c.run events).packets text ?connected ?behind hsent spoken
      ?told ?tells ?handed
    all_goals rw [hlater]
    case connected => exact connected
    case behind =>
      show (c.run events).hanging + 1 = 1
      rw [settled]
    case told => exact told
    case tells => exact tells
    case handed => exact packets_handing (c.run events) text

/-- **The end of a send that hung keeps the account.**  Its packet was handed over; it tells now
whether it was written. -/
theorem Balance.wake (fault : Option OsFault) (h : c.Balance events)
    (unended : (c.run events).handle.phase = .active → .closeSocket ∉ (c.run events).taken) :
    c.Balance (events ++ [.chance (.wake fault)]) := by
  have hsent : sends (events ++ [.chance (.wake fault)]) = sends events := sends_of_quiet nofun
  have hrun : c.run (events ++ [.chance (.wake fault)]) = (c.run events).wake fault := run_concat
  cases h with
  | even settled told tells =>
    have hsame := wake_of_awake settled fault
    refine .even ?_ ?_ ?_
    all_goals rw [hrun, hsame]
    · exact settled
    · rw [hsent]; exact told
    · rw [hsent]; exact tells
  | awaited before value texts text connected hangs last spoken told tells handed =>
    obtain ⟨hactive, hunbroken⟩ := connected_eq_true_iff.1 connected
    cases fault with
    | none =>
      have hwake : (c.run events).wake none =
          { c.run events with
            handle := { (c.run events).handle with
              packetsSent := (c.run events).handle.packetsSent + 1 }
            hanging := 0
            results := (c.run events).results ++ [true] } := by simp [Course.wake, hangs]
      have hpackets : (c.run (events ++ [.chance (.wake none)])).packets = texts ++ [text] := by
        rw [hrun, hwake]
        exact handed
      refine .even (by rw [hrun, hwake]) ?_ ?_
      · rw [hrun, hwake, hsent, last]
        simp [told]
      · rw [hpackets, hrun, hwake, hsent, last]
        exact tells.succeeds told spoken
    | some fault =>
      have hwake : (c.run events).wake (some fault) =
          { handle := { (c.run events).handle with broken := true }
            hanging := 0
            results := (c.run events).results ++ [false]
            notices :=
              (c.run events).notices ++ [.sendFailed (c.run events).handle.client fault] } := by
        simp [Course.wake, hangs]
      refine .overdrawn texts text ?lost ?told ?tells ?handed ?unended
        ⟨events, _, [], value, rfl, connected, ?failing, ?last, spoken, ?fails, ?gone⟩
      case failing =>
        show 0 < (c.run events).hanging
        rw [hangs]
        exact Nat.one_pos
      case last => rw [hsent, last, List.getLast?_concat]
      all_goals rw [hrun, hwake]
      case lost =>
        refine ⟨rfl, ?_, rfl⟩
        show (c.run events).handle.phase ≠ _
        rw [hactive]
        nofun
      case told => rw [hsent, last]; simp [told]
      case tells => rw [hsent, last]; exact tells.fails told value
      case handed => exact handed
      case unended => exact unended hactive
      case gone => simp [OutputHandle.connected]
  | overdrawn texts text lost told tells handed ends overdraws =>
    exact .stays lost told tells handed ends overdraws _

/-- **Every event keeps the account**, where the owner waits for its sends. -/
theorem Balance.concat (h : c.Balance events)
    (turn : event.isOwners = true → (c.run events).hanging = 0)
    (unended : (c.run events).handle.phase = .active → .closeSocket ∉ (c.run events).taken) :
    c.Balance (events ++ [event]) := by
  by_cases hwake : ∃ fault, event = .chance (.wake fault)
  · obtain ⟨fault, rfl⟩ := hwake
    exact h.wake fault unended
  cases h with
  | overdrawn texts text lost told tells handed ends overdraws =>
    exact .stays lost told tells handed ends overdraws event
  | even settled told tells =>
    by_cases hsend : ∃ value, event = .act (.send value)
    · obtain ⟨value, rfl⟩ := hsend
      exact .send value settled told tells unended
    · obtain ⟨hresults, hhanging, hpackets⟩ :=
        (c.run events).step_quiet (not_exists.1 hsend) (not_exists.1 hwake)
      rw [← run_concat] at hresults hhanging hpackets
      have hsent : sends (events ++ [event]) = sends events := sends_of_quiet (not_exists.1 hsend)
      refine .even (hhanging.trans settled) ?_ ?_
      · rw [hresults, hsent]
        exact told
      · rw [hresults, hsent, hpackets]
        exact tells
  | awaited before value texts text connected hangs last spoken told tells handed =>
    have hchance : event.isOwners = false := by
      rw [← Bool.not_eq_true]
      intro howners
      exact absurd (turn howners) (by simp [hangs])
    have hsend : ∀ value, event ≠ .act (.send value) := by
      rintro value rfl
      cases hchance
    have hopen : event.closes = false := by
      cases event with
      | chance chance => rfl
      | _ => cases hchance
    have hunfailing : ¬ (c.run events).Fails event := by
      cases event with
      | chance chance =>
        cases chance with
        | wake fault => exact absurd ⟨fault, rfl⟩ hwake
        | _ => exact id
      | _ => cases hchance
    obtain ⟨hactive, hunbroken⟩ := connected_eq_true_iff.1 connected
    obtain ⟨hstays, _, hbroken⟩ := step_active hactive hopen
    obtain ⟨hresults, hhanging, hpackets⟩ :=
      (c.run events).step_quiet hsend (not_exists.1 hwake)
    rw [← run_concat] at hstays hbroken hresults hhanging hpackets
    refine .awaited before value texts text (connected_eq_true_iff.2 ⟨hstays, ?_⟩)
      (hhanging.trans hangs) ((sends_of_quiet hsend).trans last) spoken ?_ ?_
      (hpackets.trans handed)
    · rw [← Bool.not_eq_true, hbroken, hunbroken]
      simpa using hunfailing
    · rw [hresults]
      exact told
    · rw [hresults]
      exact tells

/-- No terminal message was taken while a handle is open. -/
theorem closeSocket_not_mem_of_active (hphase : c.handle.phase = .active)
    (hunbroken : c.handle.broken = false) (htaken : c.taken = [])
    (hactive : (c.run events).handle.phase = .active) : .closeSocket ∉ (c.run events).taken := by
  obtain ⟨texts, ⟨_, _, hpackets⟩ | ⟨⟨broken, hscheduled⟩, _⟩ | ⟨hpast, _⟩⟩ :=
    run_shape hphase hunbroken events
  · rw [hpackets, htaken, List.nil_append]
    exact closeSocket_not_mem_packets texts
  · rw [hactive] at hscheduled
    cases hscheduled
  · rw [hactive] at hpast
    cases hpast

/-- **The account holds at any time of a course.** -/
theorem balance_run (client : Text) (closeTimeout : Double) (mode : TransportMode)
    (inTurn : (fresh client closeTimeout mode).InTurn events) :
    (fresh client closeTimeout mode).Balance events := by
  induction events using List.reverseRecOn with
  | nil => exact .even rfl rfl rfl
  | append_singleton events event ih =>
    obtain ⟨hbefore, hturn⟩ := inTurn_concat.1 inTurn
    exact (ih hbefore).concat hturn (closeSocket_not_mem_of_active rfl rfl rfl)

/-- **An event counts a packet as sent exactly if it tells so.** -/
theorem step_counts (h : c.handle.packetsSent = c.results.count true) (event : Event) :
    (c.step event).handle.packetsSent = (c.step event).results.count true := by
  have hfails : c.handle.packetsSent = (c.results ++ [false]).count true := by simp [h]
  have hcounts : c.handle.packetsSent + 1 = (c.results ++ [true]).count true := by simp [h]
  have hclose : c.handle.close.packetsSent = (c.results ++ []).count true := by
    unfold OutputHandle.close
    split <;> simp [h]
  cases event with
  | leave fault => exact hclose
  | act action =>
    cases action with
    | close => exact hclose
    | requestShutdown => simpa [step, act, OutputHandle.act, OutputHandle.requestShutdown] using h
    | send value =>
      have hsends := act_sends c value
      show (c.act (.send value)).handle.packetsSent = (c.act (.send value)).results.count true
      generalize c.act (.send value) = later at hsends
      cases hsends with
      | written text connected spoken => exact hcounts
      | hangs text connected spoken => exact h
      | _ => exact hfails
  | chance chance =>
    cases chance with
    | mode mode => exact h
    | wake fault =>
      show (c.wake fault).handle.packetsSent = (c.wake fault).results.count true
      unfold Course.wake
      split
      · exact h
      · exact hcounts
      · exact hfails
    | settle => exact (runRelease_keeps c.handle).2.trans h
    | expire => exact (expire_keeps c.handle).2.trans h

theorem run_counts (h : c.handle.packetsSent = c.results.count true) (events : List Event) :
    (c.run events).handle.packetsSent = (c.run events).results.count true := by
  induction events generalizing c with
  | nil => exact h
  | cons event events ih => exact ih (step_counts h event)

/-- On a lost handle no send is written any more, and no terminal message is taken. -/
theorem Lost.gone (lost : c.Lost) (unended : .closeSocket ∉ c.taken) (later : List Event) :
    (c.run later).handle.connected = false ∧ .closeSocket ∉ (c.run later).taken := by
  obtain ⟨hlost, htaken⟩ := lost.run later
  exact ⟨hlost.not_connected, by rwa [htaken]⟩

/-- **What a send tells** on a handle that is open and unbroken, of a value that a packet holds. -/
theorem send_result {h : OutputHandle} (connected : h.connected = true)
    (spoken : value.spoken? = some text) :
    (h.send value).1 =
      if h.transport.mode.write.isSome then some false
      else if h.transport.mode.stalls then none
      else some h.transport.mode.drain.isNone := by
  rw [send_of_connected connected spoken]
  cases hwrite : h.transport.mode.write with
  | some fault => rw [Transport.offer_of_fault hwrite]; rfl
  | none =>
    cases hstalls : h.transport.mode.stalls with
    | true => simp [Transport.offer, hwrite, hstalls]
    | false =>
      cases hdrain : h.transport.mode.drain <;> simp [Transport.offer, hwrite, hstalls, hdrain]

/-- What a send that hung tells when it is over. -/
theorem wake_results (h : 0 < c.hanging) (fault : Option OsFault) :
    (c.wake fault).results = c.results ++ [fault.isNone] := by
  obtain ⟨hanging, hhanging⟩ := Nat.exists_eq_succ_of_ne_zero (Nat.ne_of_gt h)
  cases fault <;> simp [Course.wake, hhanging]

/-- A text was handed over by the last send, which hangs, or by one behind which draining failed.
Then the handle is gone for good, and no terminal message is ever taken. -/
def Surplus (c : Course) (events : List Event) (text : Text) : Prop :=
  ((c.run events).hanging = 1 ∧ (sends events).getLast?.bind Json.spoken? = some text) ∨
    ((c.run events).hanging = 0 ∧ c.Overdraws events text ∧
      ∀ later, (c.run (events ++ later)).handle.connected = false ∧
        .closeSocket ∉ (c.run (events ++ later)).taken)

/-- **What a balance tells**: the texts that were told, and at most one in surplus. -/
theorem Balance.account (h : c.Balance events) :
    (c.run events).results.length + (c.run events).hanging = (sends events).length ∧
      ∃ texts, Tells (sends events) (c.run events).results texts ∧
        ((c.run events).packets = texts ∧ (c.run events).hanging = 0 ∨
          ∃ text, (c.run events).packets = texts ++ [text] ∧ c.Surplus events text) := by
  cases h with
  | even settled told tells => exact ⟨by rw [settled]; exact told, _, tells, .inl ⟨rfl, settled⟩⟩
  | awaited before value texts text connected hangs last spoken told tells handed =>
    have htold :
        (c.run events).results.length + (c.run events).hanging = (sends events).length := by
      rw [hangs, last, told, List.length_append]
      rfl
    have htells : Tells (sends events) (c.run events).results texts := by
      have hwritten : written (before ++ [value]) ((c.run events).results ++ [])
          = written before (c.run events).results ++ written [value] [] := written_append told
      rw [List.append_nil] at hwritten
      rw [Tells, last, hwritten]
      exact (congrArg _ (List.append_nil _)).trans tells
    refine ⟨htold, texts, htells, .inr ⟨text, handed, .inl ⟨hangs, ?_⟩⟩⟩
    rw [last, List.getLast?_concat]
    exact spoken
  | overdrawn texts text lost told tells handed unended overdraws =>
    refine ⟨by rw [lost.awake]; exact told, texts, tells,
      .inr ⟨text, handed, .inr ⟨lost.awake, overdraws, fun later => ?_⟩⟩⟩
    rw [run_append]
    exact lost.gone unended later

/-- **The account of what was sent**, of every course whose owner waits for each of its sends.

* It counts the sends that told they were written.
* Each send tells something when it is over.
* The texts that were handed over are those of the sends that told they were written, in order, and
  at most one more, the last.  Its send hangs, or draining failed behind it; then the handle is gone
  for good, and no terminal message is ever taken.
* A value that no packet holds is told not to be written, which changes nothing; any other one, on a
  handle that is open and unbroken, is told to be written if neither writing nor draining fails.
  A send that hung tells so if draining does not fail in the end. -/
theorem sends_accounted (client : Text) (closeTimeout : Double) (mode : TransportMode)
    (inTurn : (fresh client closeTimeout mode).InTurn events) :
    let start := fresh client closeTimeout mode
    let now := start.run events
    now.handle.packetsSent = now.results.count true ∧
    now.results.length + now.hanging = (sends events).length ∧
    (∃ texts, Tells (sends events) now.results texts ∧
      (now.packets = texts ∧ now.hanging = 0 ∨
        ∃ text, now.packets = texts ++ [text] ∧ start.Surplus events text)) ∧
    (∀ (h : OutputHandle) value, value.spoken? = none →
      ∃ notices, h.send value = (some false, h, notices)) ∧
    (∀ (h : OutputHandle) value text, h.connected = true → value.spoken? = some text →
      (h.send value).1 =
        if h.transport.mode.write.isSome then some false
        else if h.transport.mode.stalls then none
        else some h.transport.mode.drain.isNone) ∧
    (∀ (c : Course) fault, 0 < c.hanging →
      (c.wake fault).results = c.results ++ [fault.isNone]) := by
  intro start now
  obtain ⟨htold, htexts⟩ := (balance_run client closeTimeout mode inTurn).account
  exact ⟨run_counts rfl events, htold, htexts, fun _ _ hspoken => send_of_ignored (.inr hspoken),
    fun _ _ _ => send_result, fun _ fault hhangs => wake_results hhangs fault⟩

/-- Draining fails behind the second of three packets: the first alone is counted, the second was
handed over nevertheless, and the third is dropped. -/
theorem spilt_accounted :
    let start := fresh "ctl_1" (.ofInt 5) {}
    let events : List Event := [.act (.send (.str "a")),
      .chance (.mode { drain := some .connectionReset }),
      .act (.send (.str "b")), .act (.send (.str "c")), .act .close, .chance .settle]
    start.InTurn events ∧ (start.run events).handle.packetsSent = 1 ∧
      (start.run events).packets = [("a" : Text), ("b" : Text)] ∧ start.Surplus events "b" := by
  intro start events
  have hturn : start.InTurn events := by
    simp only [start, events, InTurn]
    decide
  have hresults : (start.run events).results = [true, false, false] := by decide
  have hpackets : (start.run events).packets = [("a" : Text), ("b" : Text)] := by decide
  obtain ⟨hcount, _, ⟨texts, htells, hsurplus⟩, _⟩ := sends_accounted "ctl_1" (.ofInt 5) {} hturn
  refine ⟨hturn, ?_, hpackets, ?_⟩
  · rw [hcount, hresults]
    rfl
  · rw [hresults] at htells
    have hspoken : Json.spoken? (.str "a") = some "a" := by decide
    have htexts : texts = [("a" : Text)] := by
      have hmap : [Json.spoken? (.str "a")] = texts.map some := htells
      rw [hspoken] at hmap
      obtain ⟨first, htexts, hfirst⟩ := List.map_eq_singleton_iff.1 hmap.symm
      rw [htexts, Option.some.inj hfirst]
    rw [hpackets, htexts] at hsurplus
    obtain ⟨hsame, _⟩ | ⟨text, hsame, hover⟩ := hsurplus
    · cases hsame
    · cases hsame
      exact hover

end Course

end ControlChannel
