import ControlChannel.Listener.Connection

/-!
# What a handler says on its connection

A handler may send, close and fail in any order.  What of it reaches the client is decided by the
first close.

* `Json.spoken?` — the text of a value, if a frame can hold its packet;
* `HandlerRun.spoken` — what a run says: its sends on the open handle, and then its failure;
* `OutputHandle.Stands` — an output handle over a transport without faults, open or closed, with
  the messages that it gave away;
* `OutputHandle.send_stands_open`, `OutputHandle.close_stands`, `OutputHandle.actAll_stands` — what
  one action does to it, and a run of them;
* `Dispatch.conduct_transport` — **the packets of what was said, one terminal message, one close**.
-/

namespace ControlChannel

/-! ### What is said -/

/-- Whether an action closes the handle. -/
def Action.closes : Action → Bool
  | .close => true
  | _ => false

/-- The value that an action sends. -/
def Action.sent? : Action → Option Json
  | .send value => some value
  | _ => none

/-- The text of a value, if it is one and a frame can hold its packet. -/
def Json.spoken? : Json → Option Text
  | .str text => if (Frame.encode (.packet text)).isOk then some text else none
  | _ => none

namespace HandlerRun

/-- The values that a run sends before it first closes its handle. -/
def sentOpen (actions : List Action) : List Json :=
  (actions.takeWhile fun action => ! action.closes).filterMap Action.sent?

/-- The report of a failure, which only a handle that was not closed takes. -/
def reported (run : HandlerRun) : List Json :=
  match run.ending with
  | .returned _ => []
  | .failed fault => if run.actions.any Action.closes then [] else [.str fault.report]

/-- What a run says, text by text. -/
def spoken (run : HandlerRun) : List Text :=
  (sentOpen run.actions ++ run.reported).filterMap Json.spoken?

@[simp] theorem sentOpen_cons_close (actions : List Action) : sentOpen (.close :: actions) = [] := rfl

@[simp] theorem sentOpen_cons_send (value : Json) (actions : List Action) :
    sentOpen (.send value :: actions) = value :: sentOpen actions := rfl

@[simp] theorem sentOpen_cons_requestShutdown (actions : List Action) :
    sentOpen (.requestShutdown :: actions) = sentOpen actions := rfl

end HandlerRun

/-- A text is said exactly when its packet has a frame. -/
theorem Json.spoken?_eq_some_iff {value : Json} {text : Text} :
    value.spoken? = some text ↔
      value = .str text ∧ ∃ frame, Frame.encode (.packet text) = .ok frame := by
  cases value with
  | str other =>
    unfold spoken?
    dsimp only
    cases hencode : Frame.encode (.packet other) with
    | error fault =>
      rw [show (Except.error fault : Except ProtocolFault Bytes).isOk = false from rfl,
        if_neg Bool.false_ne_true]
      constructor
      · intro h
        cases h
      · rintro ⟨h, frame, hframe⟩
        cases h
        rw [hencode] at hframe
        cases hframe
    | ok bytes =>
      rw [show (Except.ok bytes : Except ProtocolFault Bytes).isOk = true from rfl, if_pos rfl]
      constructor
      · intro h
        cases h
        exact ⟨rfl, bytes, hencode⟩
      · rintro ⟨h, _⟩
        cases h
        rfl
  | _ =>
    constructor
    · intro h
      cases h
    · rintro ⟨h, _⟩
      cases h

theorem Json.filterMap_spoken?_cons (value : Json) (values : List Json) :
    (value :: values).filterMap Json.spoken?
      = value.spoken?.toList ++ values.filterMap Json.spoken? := by
  rw [List.filterMap_cons]
  cases value.spoken? <;> rfl

/-- What a run says has frames. -/
theorem HandlerRun.encode_spoken {run : HandlerRun} {text : Text} (h : text ∈ run.spoken) :
    ∃ frame, Frame.encode (.packet text) = .ok frame := by
  obtain ⟨value, _, hvalue⟩ := List.mem_filterMap.1 h
  exact (Json.spoken?_eq_some_iff.1 hvalue).2

namespace OutputHandle

/-- The packet of a value is the packet of the text that is said, if there is one. -/
theorem packetFor_eq (value : Json) :
    match value.spoken? with
    | some text => packetFor value = .ok (.packet text)
    | none => ∃ fault, packetFor value = .error fault := by
  cases value with
  | str text =>
    have hpacket : packetFor (.str text)
        = (Frame.encode (.packet text)).map fun _ => .packet text := by
      show (do let _ ← Frame.encode (.packet text); return Message.packet text) = _
      cases Frame.encode (.packet text) <;> rfl
    rw [hpacket, Json.spoken?]
    cases Frame.encode (.packet text) with
    | error fault => exact ⟨fault, rfl⟩
    | ok frame => rfl
  | _ => exact ⟨_, rfl⟩

/-! ### A handle over a transport without faults -/

/-- An output handle over a transport without faults: the time that its release has, whether it was
closed, and the messages that it gave away. -/
structure Stands (time : Double) (closed : Bool) (taken : List Message) (h : OutputHandle) :
    Prop where
  phase : h.phase = if closed then .scheduled false else .active
  unbroken : h.broken = false
  transport : h.transport = { taken }
  time : h.closeTimeout = time

variable {h : OutputHandle} {time : Double} {closed : Bool} {taken : List Message}

/-- Sending on an open handle gives away the packet of what is said. -/
theorem send_stands_open (stands : Stands time false taken h) (value : Json) :
    Stands time false (taken ++ value.spoken?.toList.map .packet) (h.send value).2.1 := by
  have hphase : h.phase = .active := stands.phase
  have hopen : ¬ h.closed = true := by
    rw [closed, hphase]
    decide
  have hunbroken : ¬ h.broken = true := by
    rw [stands.unbroken]
    decide
  have hpacket := packetFor_eq value
  unfold send
  rw [if_neg hopen, if_neg hunbroken]
  cases hspoken : value.spoken? with
  | none =>
    rw [hspoken] at hpacket
    obtain ⟨fault, hfault⟩ := hpacket
    rw [hfault]
    show Stands time false (taken ++ []) h
    rw [List.append_nil]
    exact stands
  | some text =>
    rw [hspoken] at hpacket
    dsimp only at hpacket
    rw [hpacket, stands.transport]
    exact ⟨hphase, stands.unbroken, rfl, stands.time⟩

/-- Sending on a closed handle gives nothing away. -/
theorem send_stands_closed (stands : Stands time true taken h) (value : Json) :
    Stands time true taken (h.send value).2.1 := by
  have hclosed : h.closed = true := by
    rw [closed, stands.phase]
    rfl
  unfold send
  rw [if_pos hclosed]
  exact stands

/-- A handle is closed by its first close, and a later one changes nothing. -/
theorem close_stands (stands : Stands time closed taken h) : Stands time true taken h.close := by
  have hphase := stands.phase
  unfold close
  cases closed with
  | false =>
    rw [show h.phase = .active from hphase]
    exact ⟨congrArg ClosePhase.scheduled stands.unbroken, stands.unbroken, stands.transport,
      stands.time⟩
  | true =>
    rw [show h.phase = .scheduled false from hphase]
    exact stands

/-- Asking for the end of the service touches neither the phase nor the transport. -/
theorem requestShutdown_stands (stands : Stands time closed taken h) :
    Stands time closed taken h.requestShutdown :=
  ⟨stands.phase, stands.unbroken, stands.transport, stands.time⟩

/-! ### Runs of actions -/

theorem actAll_cons (h : OutputHandle) (action : Action) (actions : List Action) :
    (h.actAll (action :: actions)).2.1 = ((h.act action).2.1.actAll actions).2.1 := rfl

/-- **No action on a closed handle gives anything away**, nor opens it again. -/
theorem actAll_stands_closed (actions : List Action) (stands : Stands time true taken h) :
    Stands time true taken (h.actAll actions).2.1 := by
  induction actions generalizing h with
  | nil => exact stands
  | cons action actions ih =>
    rw [actAll_cons]
    cases action with
    | send value => exact ih (send_stands_closed stands value)
    | close => exact ih (close_stands stands)
    | requestShutdown => exact ih (requestShutdown_stands stands)

/-- **Actions on an open handle give away the packets of what is sent before the first close**, and
leave it closed if there is one. -/
theorem actAll_stands (actions : List Action) (stands : Stands time false taken h) :
    Stands time (actions.any Action.closes)
      (taken ++ ((HandlerRun.sentOpen actions).filterMap Json.spoken?).map .packet)
      (h.actAll actions).2.1 := by
  induction actions generalizing h taken with
  | nil =>
    show Stands time false (taken ++ []) h
    rw [List.append_nil]
    exact stands
  | cons action actions ih =>
    rw [actAll_cons, List.any_cons]
    cases action with
    | send value =>
      have hlater := ih (send_stands_open stands value)
      rw [HandlerRun.sentOpen_cons_send, Json.filterMap_spoken?_cons, List.map_append,
        ← List.append_assoc]
      exact hlater
    | close =>
      rw [HandlerRun.sentOpen_cons_close, List.filterMap_nil, List.map_nil, List.append_nil]
      exact actAll_stands_closed actions (close_stands stands)
    | requestShutdown =>
      rw [HandlerRun.sentOpen_cons_requestShutdown]
      exact ih (requestShutdown_stands stands)

/-! ### The release -/

/-- The terminal message, where there is any time for it. -/
def terminal (time : Double) : List Message :=
  if time.isAtMostZero then [] else [.closeSocket]

/-- A closed handle writes the terminal message behind what it gave away and closes the
connection once. -/
theorem runRelease_transport (stands : Stands time true taken h) :
    h.runRelease.1.transport = { taken := taken ++ terminal time, closes := 1 } := by
  unfold runRelease
  rw [show h.phase = .scheduled false from stands.phase]
  dsimp only
  unfold notify terminal
  rw [← stands.time]
  cases hurried : h.closeTimeout.isAtMostZero with
  | true =>
    rw [if_pos rfl, if_pos rfl, List.append_nil]
    unfold release
    dsimp only
    rw [if_pos hurried, stands.transport]
    rfl
  | false =>
    rw [if_neg Bool.false_ne_true, if_neg Bool.false_ne_true, stands.transport]
    show (release { h with transport := { taken := taken ++ [Message.closeSocket] } }).transport = _
    unfold release
    dsimp only
    rw [hurried, if_neg Bool.false_ne_true]
    rfl

end OutputHandle

namespace Dispatch

/-- A handle that a handler has used and closed has given away the packets of what is said. -/
theorem engage_stands (settings : ServeSettings) (client : Text) (run : HandlerRun) :
    OutputHandle.Stands settings.closeTimeout true (run.spoken.map .packet)
      (engage settings client run).2 := by
  have hfresh : OutputHandle.Stands settings.closeTimeout false []
      { client, closeTimeout := settings.closeTimeout } := ⟨rfl, rfl, rfl, rfl⟩
  have hacted := OutputHandle.actAll_stands run.actions hfresh
  rw [List.nil_append] at hacted
  unfold engage HandlerRun.spoken HandlerRun.reported
  cases run.ending with
  | returned value =>
    rw [List.append_nil]
    exact OutputHandle.close_stands hacted
  | failed fault =>
    dsimp only
    cases hclosed : run.actions.any Action.closes with
    | true =>
      rw [hclosed] at hacted
      have hreported := OutputHandle.send_stands_closed hacted (.str fault.report)
      rw [if_pos rfl, List.append_nil]
      exact OutputHandle.close_stands hreported
    | false =>
      rw [hclosed] at hacted
      have hreported := OutputHandle.send_stands_open hacted (.str fault.report)
      rw [if_neg Bool.false_ne_true, List.filterMap_append, Json.filterMap_spoken?_cons,
        List.filterMap_nil, List.append_nil, List.map_append]
      exact OutputHandle.close_stands hreported

/-- **A handler's connection takes the packets of what is said, then the terminal message**, and is
closed once. -/
theorem conduct_transport (settings : ServeSettings) (client : Text) (run : HandlerRun) :
    (conduct settings client run).transport =
      { taken := run.spoken.map .packet ++ OutputHandle.terminal settings.closeTimeout
        closes := 1 } :=
  OutputHandle.runRelease_transport (engage_stands settings client run)

end Dispatch

end ControlChannel
