import ControlChannel.Proofs.FrameReading
import ControlChannel.Proofs.HandlerStream

/-!
# What a connection is answered

A client may deliver any octets, and a handler may do anything with its output handle.

* `Frame.Begins`, `ServeSettings.Hears` — the message that octets begin with, and the request that
  a listener takes them for;
* `Dispatch.recorded` — a dispatch that notes the calls of its handler;
* `Dispatch.serve_of_hears`, `Dispatch.serve_unheard` — a connection with a request, and one
  without;
* `Dispatch.serve_append` — **what comes after the first frame has no effect**;
* `Dispatch.serve_answers_exactly` — what is written on a connection, for every request.
-/

namespace ControlChannel

/-- Octets that begin with a frame of a message, whatever follows it. -/
def Frame.Begins (bytes : Bytes) (m : Message) : Prop :=
  ∃ frame rest, bytes = frame ++ rest ∧ decode frame = .ok m

/-- The request that octets carry to a listener: the message that they begin with, if there is any
time to read it. -/
def ServeSettings.Hears (settings : ServeSettings) (bytes : Bytes) (m : Message) : Prop :=
  settings.requestTimeout.isAtMostZero = false ∧ Frame.Begins bytes m

namespace Dispatch

variable {Facts Command : Type}

/-- The same dispatch, which notes each command that its handler is called with. -/
def recorded (d : Dispatch Facts Command) : Dispatch (Facts × List Command) Command where
  read := d.read
  handle := fun noted command =>
    ((d.handle noted.1 command).1, (d.handle noted.1 command).2, noted.2 ++ [command])

variable (d : Dispatch Facts Command) (settings : ServeSettings) (client : Text)

/-! ### What is heard -/

/-- A listener hears a message exactly when the octets begin with a frame of it. -/
theorem heard_eq_message_iff {delivery : Delivery} {m : Message} :
    (∃ later, heard settings delivery = .message m later) ↔
      settings.Hears delivery.bytes m := by
  unfold heard ServeSettings.Hears Frame.Begins
  cases htime : settings.requestTimeout.isAtMostZero with
  | true =>
    rw [if_pos rfl]
    constructor
    · rintro ⟨later, h⟩
      cases h
    · rintro ⟨h, _⟩
      cases h
  | false =>
    rw [if_neg Bool.false_ne_true]
    constructor
    · rintro ⟨later, h⟩
      obtain ⟨frame, rest, hbytes, hdecode, _⟩ := Delivery.receive_eq_message_iff.1 h
      exact ⟨rfl, frame, rest, hbytes, hdecode⟩
    · rintro ⟨_, frame, rest, hbytes, hdecode⟩
      exact ⟨_, Delivery.receive_eq_message_iff.2 ⟨frame, rest, hbytes, hdecode, rfl⟩⟩

/-- A listener that hears no message closes the connection without a word. -/
theorem serve_unheard (facts : Facts) {delivery : Delivery}
    (h : ∀ m, ¬ settings.Hears delivery.bytes m) :
    ∃ notices, d.serve settings client facts delivery = (Served.close { notices }, facts) := by
  unfold serve
  cases hheard : heard settings delivery with
  | message m later => exact absurd ((heard_eq_message_iff settings).1 ⟨later, hheard⟩) (h m)
  | refused fault =>
    cases fault with
    | closed => exact ⟨_, rfl⟩
    | payload fault => cases fault <;> exact ⟨_, rfl⟩
  | broken => exact ⟨_, rfl⟩
  | silence => exact ⟨_, rfl⟩

/-- A listener goes to the command with an argument vector, and closes the connection behind the
reply to any other message. -/
theorem serve_of_hears (facts : Facts) {delivery : Delivery} {m : Message}
    (h : settings.Hears delivery.bytes m) :
    d.serve settings client facts delivery =
      match m with
      | .args argv => d.answer settings client facts argv
      | request => ((reply settings client request).close, facts) := by
  obtain ⟨later, hheard⟩ := (heard_eq_message_iff settings).2 h
  unfold serve
  rw [hheard]
  cases m <;> rfl

/-- **What comes after the first frame has no effect**, and neither has the way in which it ends:
as soon as the octets decide what a read gives, the connection comes to that. -/
theorem serve_append (facts : Facts) {bytes : Bytes} (decided : (Frame.front? bytes).isSome)
    (extra : Bytes) (manner other : Manner) :
    d.serve settings client facts { bytes := bytes ++ extra, manner }
      = d.serve settings client facts { bytes, manner := other } := by
  obtain ⟨⟨result, rest⟩, hfront⟩ := Option.isSome_iff_exists.1 decided
  have hlonger := Frame.front?_append hfront extra
  unfold serve heard
  cases htime : settings.requestTimeout.isAtMostZero with
  | true => rfl
  | false =>
    rw [if_neg Bool.false_ne_true, if_neg Bool.false_ne_true]
    cases result with
    | error fault =>
      rw [Delivery.receive_of_front?_error (d := { bytes := bytes ++ extra, manner }) hlonger,
        Delivery.receive_of_front?_error (d := { bytes, manner := other }) hfront]
    | ok m =>
      rw [Delivery.receive_of_front? (d := { bytes := bytes ++ extra, manner }) hlonger,
        Delivery.receive_of_front? (d := { bytes, manner := other }) hfront]
      cases m <;> rfl

/-! ### What is written -/

/-- A refused argument vector is told why, if a frame can hold that, and the connection is
closed. -/
theorem rejected_transport (text : Text) :
    (rejected client text).transport
      = { taken := (Json.str text).spoken?.toList.map .packet, closes := 1 } := by
  have hpacket := OutputHandle.packetFor_eq (.str text)
  unfold rejected
  cases hspoken : (Json.str text).spoken? with
  | none =>
    rw [hspoken] at hpacket
    obtain ⟨fault, hfault⟩ := hpacket
    rw [hfault]
    rfl
  | some said =>
    rw [hspoken] at hpacket
    dsimp only at hpacket
    rw [hpacket]
    rfl

/-- A request for the process id is answered with it. -/
theorem reply_idRequest {pid : Pid} (hpid : settings.pid = pid.val) :
    (reply settings client .idRequest).transport = { taken := [.idResponse pid] } := by
  have hresponse : settings.idResponse = .ok (.idResponse pid) := by
    rw [ServeSettings.idResponse, hpid, Message.pidOf_val]
    rfl
  unfold reply
  dsimp only
  rw [hresponse]
  rfl

variable {settings} {delivery : Delivery}

/-- Where no request is heard, nothing is written and the handler is not called. -/
theorem serve_unrequested (facts : Facts)
    (h : (∀ m, ¬ settings.Hears delivery.bytes m) ∨
      ∃ m, settings.Hears delivery.bytes m ∧ m.tag ∈ [Tag.idResponse, .packet, .closeSocket]) :
    ∃ notices, d.serve settings client facts delivery = (Served.close { notices }, facts) := by
  obtain hnone | ⟨m, hm, htag⟩ := h
  · exact serve_unheard d settings client facts hnone
  · rw [serve_of_hears d settings client facts hm]
    cases m with
    | idRequest => exact absurd htag (by decide)
    | args argv => exact absurd htag (by rw [Message.tag]; decide)
    | _ => exact ⟨_, rfl⟩

theorem serve_refused (facts : Facts) {argv : List Text} {text : Text}
    (h : settings.Hears delivery.bytes (.args argv)) (hread : d.read argv = .error text) :
    d.serve settings client facts delivery = (rejected client text, facts) := by
  rw [serve_of_hears d settings client facts h]
  dsimp only
  rw [answer, hread]

theorem serve_accepted (facts : Facts) {argv : List Text} {command : Command}
    (h : settings.Hears delivery.bytes (.args argv)) (hread : d.read argv = .ok command) :
    d.serve settings client facts delivery =
      (conduct settings client (d.handle facts command).1, (d.handle facts command).2) := by
  rw [serve_of_hears d settings client facts h]
  dsimp only
  rw [answer, hread]

/-- **Every connection is closed exactly once.** -/
theorem serve_closes (facts : Facts) :
    (d.serve settings client facts delivery).1.transport.closes = 1 := by
  by_cases hnone : ∀ m, ¬ settings.Hears delivery.bytes m
  · obtain ⟨notices, hserve⟩ := serve_unheard d settings client facts hnone
    rw [hserve]
    rfl
  · rw [not_forall] at hnone
    obtain ⟨m, hm⟩ := hnone
    rw [not_not] at hm
    cases m with
    | args argv =>
      cases hread : d.read argv with
      | error text =>
        rw [serve_refused d client facts hm hread, rejected_transport]
      | ok command =>
        rw [serve_accepted d client facts hm hread, conduct_transport]
    | idRequest =>
      rw [serve_of_hears d settings client facts hm]
      show (reply settings client .idRequest).transport.closes + 1 = 1
      unfold reply
      dsimp only
      cases settings.idResponse <;> rfl
    | _ =>
      rw [serve_of_hears d settings client facts hm]
      rfl

/-- **What is written on a connection, for all octets that arrive and every handler.**

* Nothing, if no message is heard or the one that is heard is no request.
* The process id, if that is asked for.
* The reason, if an argument vector is no command and a frame can hold the reason.
* What the handler says and then the terminal message, if it is a command; the handler is called
  with it once, and on no other way.  Only a listener that allows no time for the terminal message
  leaves it out.

Then the connection is closed, once.  What comes after the first frame has no effect. -/
theorem serve_answers_exactly {pid : Pid} (hpid : settings.pid = pid.val) (facts : Facts)
    (calls : List Command) (delivery : Delivery) :
    let serve := d.recorded.serve settings client (facts, calls)
    let served := (serve delivery).1
    let after := (serve delivery).2
    (((∀ m, ¬ settings.Hears delivery.bytes m) ∨
        ∃ m, settings.Hears delivery.bytes m ∧ m.tag ∈ [.idResponse, .packet, .closeSocket]) →
      served.frames = [] ∧ after = (facts, calls)) ∧
    (settings.Hears delivery.bytes .idRequest →
      served.frames = [.idResponse pid] ∧ after = (facts, calls)) ∧
    (∀ argv text, settings.Hears delivery.bytes (.args argv) → d.read argv = .error text →
      ((∃ frame, Frame.encode (.packet text) = .ok frame) → served.frames = [.packet text]) ∧
      ((∃ fault, Frame.encode (.packet text) = .error fault) → served.frames = []) ∧
      after = (facts, calls)) ∧
    (∀ argv command, settings.Hears delivery.bytes (.args argv) → d.read argv = .ok command →
      (settings.closeTimeout.isAtMostZero = false →
        served.frames = (d.handle facts command).1.spoken.map .packet ++ [.closeSocket]) ∧
      (settings.closeTimeout.isAtMostZero = true →
        served.frames = (d.handle facts command).1.spoken.map .packet) ∧
      after = ((d.handle facts command).2, calls ++ [command])) ∧
    served.transport.closes = 1 ∧
    ((Frame.front? delivery.bytes).isSome → ∀ extra manner,
      serve { bytes := delivery.bytes ++ extra, manner } = serve delivery) := by
  intro serve served after
  refine ⟨?unrequested, ?idRequest, ?refused, ?accepted, serve_closes d.recorded client _, ?rest⟩
  case unrequested =>
    intro h
    obtain ⟨notices, hserve⟩ := serve_unrequested d.recorded client (facts, calls) h
    show (serve delivery).1.frames = [] ∧ (serve delivery).2 = _
    rw [show serve delivery = _ from hserve]
    exact ⟨rfl, rfl⟩
  case idRequest =>
    intro h
    have hserve := serve_of_hears d.recorded settings client (facts, calls) h
    show (serve delivery).1.transport.taken = _ ∧ (serve delivery).2 = _
    rw [show serve delivery = _ from hserve]
    refine ⟨?_, rfl⟩
    show (reply settings client .idRequest).transport.taken = _
    rw [reply_idRequest settings client hpid]
  case refused =>
    intro argv text h hread
    have hserve := serve_refused d.recorded client (facts, calls) h hread
    show (_ → (serve delivery).1.transport.taken = _) ∧
      (_ → (serve delivery).1.transport.taken = _) ∧ (serve delivery).2 = _
    rw [show serve delivery = _ from hserve, rejected_transport]
    refine ⟨?_, ?_, rfl⟩
    · rintro ⟨frame, hframe⟩
      rw [Json.spoken?_eq_some_iff.2 ⟨rfl, frame, hframe⟩]
      rfl
    · rintro ⟨fault, hfault⟩
      cases hspoken : (Json.str text).spoken? with
      | none => rfl
      | some said =>
        obtain ⟨hsaid, frame, hframe⟩ := Json.spoken?_eq_some_iff.1 hspoken
        cases hsaid
        rw [hfault] at hframe
        cases hframe
  case accepted =>
    intro argv command h hread
    have hserve := serve_accepted d.recorded client (facts, calls) h hread
    show (_ → (serve delivery).1.transport.taken = _) ∧
      (_ → (serve delivery).1.transport.taken = _) ∧ (serve delivery).2 = _
    rw [show serve delivery = _ from hserve, conduct_transport, OutputHandle.terminal]
    refine ⟨?_, ?_, rfl⟩
    · intro htime
      rw [htime, if_neg Bool.false_ne_true]
      rfl
    · intro htime
      rw [htime, if_pos rfl, List.append_nil]
      rfl
  case rest =>
    intro decided extra manner
    exact serve_append d.recorded settings client (facts, calls) decided extra manner
      delivery.manner

/-- Takes every argument vector for a command, greets, closes the handle, and then fails. -/
def greeter : Dispatch Unit (List Text) where
  read := .ok
  handle := fun facts _ =>
    ({ actions := [.send (.str "hello"), .close, .send (.str "late")]
       ending := .failed (.other "too late to tell") }, facts)

/-- A client that sends its frame and more, and then stays, is greeted and told the end; what the
handler does after its close does not reach it. -/
theorem greeter_answers :
    let frame := ((Frame.encode (.args ["prog", "hi"])).toOption).getD []
    let served := greeter.recorded.serve
      { pid := 4242, requestTimeout := .whole 2, closeTimeout := .ofInt 1 } "ctl_1" ((), [])
      { bytes := frame ++ [0xFF], manner := .staysSilent }
    served.1.frames = [.packet "hello", .closeSocket] ∧
      served.2.2 = [(["prog", "hi"] : List Text)] := by
  intro frame served
  have hframe : Frame.encode (.args ["prog", "hi"]) = .ok frame := rfl
  have hanswer := (@serve_answers_exactly _ _ greeter
    { pid := 4242, requestTimeout := .whole 2, closeTimeout := .ofInt 1 } "ctl_1" 4242 rfl
    () [] { bytes := frame ++ [0xFF], manner := .staysSilent }).2.2.2.1
    ["prog", "hi"] ["prog", "hi"] ⟨by decide, frame, [0xFF], rfl, Frame.decode_encode hframe⟩ rfl
  obtain ⟨hframes, _, hafter⟩ := hanswer
  refine ⟨?_, ?_⟩
  · rw [show served.1.frames = _ from hframes (by decide)]
    decide
  · rw [show served.2 = _ from hafter]
    rfl

/-- **Without time for closing the end is not told**: a client with a command is greeted, and the
connection is closed. -/
theorem hurried_greeter_untold :
    let settings : ServeSettings :=
      { pid := 4242, requestTimeout := .whole 2, closeTimeout := .ofInt 0 }
    let frame := ((Frame.encode (.args ["prog", "hi"])).toOption).getD []
    let served := greeter.recorded.serve settings "ctl_1" ((), []) { bytes := frame }
    settings.Hears frame (.args ["prog", "hi"]) ∧ greeter.read ["prog", "hi"] = .ok ["prog", "hi"] ∧
      served.1.frames = [.packet "hello"] ∧ served.1.transport.closes = 1 := by
  intro settings frame served
  have hframe : Frame.encode (.args ["prog", "hi"]) = .ok frame := rfl
  refine ⟨⟨by decide, frame, [], (List.append_nil frame).symm, Frame.decode_encode hframe⟩, rfl, ?_⟩
  decide +kernel

end Dispatch

end ControlChannel
