import ControlChannel.CommandLine.Sending
import ControlChannel.Console
import ControlChannel.Proofs.ConnectionAnswer
import ControlChannel.Proofs.FrameRoundTrip
import ControlChannel.Proofs.ShownTexts
import ControlChannel.Site

/-!
# A forwarded command shows what its handler says

* `Client.relay_octets` — a client shows the packets that arrive, until the terminal message;
* `Client.forward_of_taken`, `Client.forward_of_refused`, `Client.forward_of_stalled` — what becomes
  of a vector with a frame, which is taken, or cannot be sent, or is never taken as a whole;
* `Charset.takes_of_encode` — **a text that has a frame is taken by every stream in UTF-8**;
* `Site.forward_command` — a forwarded vector with a command;
* `Site.forward_shows_spoken` — **what a handler says is exactly what the caller of its command
  shows**.
-/

namespace ControlChannel

/-- The octets of messages, as far as they have any. -/
def Frame.octets (messages : List Message) : Bytes :=
  messages.flatMap fun m => ((encode m).toOption).getD []

theorem Frame.octets_cons {m : Message} {frame : Bytes} (h : encode m = .ok frame)
    (messages : List Message) : octets (m :: messages) = frame ++ octets messages := by
  rw [octets, List.flatMap_cons, h]
  rfl

namespace Client

/-- What a client does with the message that it reads. -/
theorem relay_eq (path : Text) (delivery : Delivery) :
    relay path delivery =
      match delivery.receive with
      | .message (.packet text) rest =>
        { relay path rest with shown := text :: (relay path rest).shown }
      | .message .closeSocket _ => { shown := [], ending := .closed }
      | .message other _ => .failing (.control (.protocol (.unexpectedFromServer other.tag.name)))
      | .refused fault => .failing (.ofRead fault)
      | .broken => .failing (.control (.connectionFailed path .connectionReset))
      | .silence => { shown := [], ending := .waiting } := by
  rw [relay]
  split
  case h_3 other rest hpacket hclose hreceive =>
    rw [hreceive]
    cases other with
    | packet text => exact (hpacket text rfl).elim
    | closeSocket => exact (hclose rfl).elim
    | _ => rfl
  all_goals
    rename_i hreceive
    rw [hreceive]

/-- **A client shows the texts of the packets that arrive, in order**, and ends with the terminal
message. -/
theorem relay_octets (path : Text) (manner : Manner) (texts : List Text)
    (h : ∀ text ∈ texts, ∃ frame, Frame.encode (.packet text) = .ok frame) :
    relay path { bytes := Frame.octets (texts.map .packet ++ [.closeSocket]), manner }
      = { shown := texts, ending := .closed } := by
  induction texts with
  | nil =>
    have hclose : Frame.encode .closeSocket =
        .ok (((Frame.encode .closeSocket).toOption).getD []) := rfl
    rw [List.map_nil, List.nil_append, Frame.octets_cons hclose, relay_eq,
      Delivery.receive_encode hclose]
  | cons text texts ih =>
    obtain ⟨frame, hframe⟩ := h text List.mem_cons_self
    have hlater := ih fun later hmem => h later (List.mem_cons_of_mem text hmem)
    rw [List.map_cons, List.cons_append, Frame.octets_cons hframe, relay_eq,
      Delivery.receive_encode hframe]
    dsimp only
    rw [hlater]

section

variable {argv : List Text} {frame : Bytes} (hframe : Frame.encode (.args argv) = .ok frame)
  (path : Text) {reply : Reply}
include hframe

theorem forwardRequest_of_encode : forwardRequest argv = [.args argv] := by
  rw [forwardRequest, hframe]

theorem forward_of_taken (taken : reply.intake = .taken) :
    forward path argv (.ok reply) = relay path reply.toDelivery := by
  rw [forward, hframe]
  dsimp only
  rw [taken]

theorem forward_of_refused {fault : OsFault} (refused : reply.intake = .refused fault) :
    forward path argv (.ok reply) = .failing (.control (.connectionFailed path fault)) := by
  rw [forward, hframe]
  dsimp only
  rw [refused]

theorem forward_of_stalled (stalled : reply.intake = .stalled) :
    forward path argv (.ok reply) = { shown := [], ending := .waiting } := by
  rw [forward, hframe]
  dsimp only
  rw [stalled]

end

end Client

/-- **A text that has a frame is taken by every stream in UTF-8.** -/
theorem Charset.takes_of_encode {text : Text} {frame : Bytes}
    (h : Frame.encode (.packet text) = .ok frame) : utf8.Takes text :=
  takes_utf8_iff.2 (((Frame.encode_eq_ok_iff _ _).1 h).1 text (List.mem_singleton_self text))

/-- So is what a handler says. -/
theorem HandlerRun.takes_spoken {run : HandlerRun} {text : Text} (h : text ∈ run.spoken) :
    Charset.utf8.Takes text :=
  Charset.takes_of_encode (encode_spoken h).choose_spec

/-- A call of the program that is told the end ends with status 0 once its stream has taken what was
shown. -/
theorem Machine.send_of_closed [ConsoleLibrary] {m m' : Machine} (screen : Screen) (e : Environment)
    {path : Text} {argv shown : List Text}
    (h : m.forward path argv = ({ shown, ending := .closed }, m')) :
    m.send screen e path argv =
      (screen.writeAll shown).map fun screen => { exit := .status 0, screen, machine := m' } := by
  rw [send, h]
  dsimp only
  cases screen.writeAll shown <;> rfl

namespace Site

variable {Facts Command : Type}

/-- Closing the socket changes neither the facts nor the address. -/
theorem settle_facts (s : Site Facts) :
    s.settle.listener.facts = s.listener.facts ∧ s.settle.address = s.address := by
  unfold settle close Listener.close
  split_ifs with hretired
  · cases s.listener.inode <;> exact ⟨rfl, rfl⟩
  · exact ⟨rfl, rfl⟩

/-- A connection to a listener that the address reaches is served by it. -/
theorem reach_of_reaches (d : Dispatch Facts Command) {s : Site Facts} (h : s.reaches = true)
    (delivery : Delivery) :
    let served := d.serve s.listener.settings s.listener.nextClient s.listener.facts delivery
    ∃ trace later, s.reach d delivery = (.ok served.1.delivery, trace, later) ∧
      later.listener.facts = served.2 ∧ later.address = s.address := by
  intro served
  unfold reach
  rw [if_pos h]
  refine ⟨_, _, rfl, ?_⟩
  rw [(settle_facts _).1, (settle_facts _).2]
  refine ⟨?_, rfl⟩
  dsimp only [Listener.accept]
  split_ifs <;> rfl

/-- What a client delivers is heard as its argument vector, if there is time to hear it. -/
theorem hears_forwardRequest {settings : ServeSettings}
    (htime : settings.requestTimeout.isAtMostZero = false) {argv : List Text} {frame : Bytes}
    (hframe : Frame.encode (.args argv) = .ok frame) :
    settings.Hears (Delivery.ofMessages (Client.forwardRequest argv)).bytes (.args argv) := by
  refine ⟨htime, frame, [], ?_, Frame.decode_encode hframe⟩
  rw [Client.forwardRequest_of_encode hframe]
  exact Frame.octets_cons hframe []

section

variable [ConsoleLibrary]

/-- A client that forwards a vector with a command shows what the handler says; on the connection are
these packets and the terminal message.  A call of the program that meets the listener writes the
texts one after the other, and ends with status 0 once its stream has taken them. -/
theorem forward_command (d : Dispatch Facts Command) {s : Site Facts}
    (hreaches : s.reaches = true)
    (hrequest : s.listener.settings.requestTimeout.isAtMostZero = false)
    (hclose : s.listener.settings.closeTimeout.isAtMostZero = false)
    {argv : List Text} {frame : Bytes} (hframe : Frame.encode (.args argv) = .ok frame)
    {command : Command} (hread : d.read argv = .ok command) :
    let run := (d.handle s.listener.facts command).1
    let request : Delivery := .ofMessages (Client.forwardRequest argv)
    (s.listener.accept d request).1.frames = run.spoken.map .packet ++ [.closeSocket] ∧
      (s.forward d argv).1 = { shown := run.spoken, ending := .closed } ∧
      (s.forward d argv).2.2.listener.facts = (d.handle s.listener.facts command).2 ∧
      ∀ (m m' : Machine) (screen : Screen) (e : Environment),
        m.converse s.address (Client.forwardRequest argv) = ((s.reach d request).1, m') →
        m.send screen e s.address argv = (screen.writeAll run.spoken).map fun screen =>
          { exit := .status 0, screen, machine := m' } := by
  intro run request
  have hserve := Dispatch.serve_accepted d s.listener.nextClient s.listener.facts
    (hears_forwardRequest hrequest hframe) hread
  have hframes : (Dispatch.conduct s.listener.settings s.listener.nextClient run).transport
      = { taken := run.spoken.map .packet ++ [.closeSocket], closes := 1 } := by
    rw [Dispatch.conduct_transport, OutputHandle.terminal, hclose, if_neg Bool.false_ne_true]
  obtain ⟨trace, later, hreach, hfacts, haddress⟩ := reach_of_reaches d hreaches request
  rw [hserve] at hreach hfacts
  have hrelay : Client.forward s.address argv
      (.ok (Dispatch.conduct s.listener.settings s.listener.nextClient run).delivery)
        = { shown := run.spoken, ending := .closed } := by
    rw [Client.forward_of_taken hframe _ rfl]
    dsimp only [Served.delivery, Served.frames]
    rw [hframes]
    exact Client.relay_octets s.address _ run.spoken fun text h => HandlerRun.encode_spoken h
  refine ⟨?frames, ?shown, ?facts, ?sent⟩
  case frames =>
    rw [Listener.accept, hserve]
    exact congrArg Transport.taken hframes
  case shown =>
    unfold forward
    rw [hreach]
    dsimp only
    rw [haddress, hrelay]
  case facts =>
    unfold forward
    rw [hreach]
    exact hfacts
  case sent =>
    intro m m' screen e hconverse
    have hforward : m.forward s.address argv
        = ({ shown := run.spoken, ending := .closed }, m') := by
      rw [Machine.forward, hconverse, hreach]
      exact congrArg (·, m') hrelay
    exact Machine.send_of_closed screen e hforward

end

end Site

/-- A listener on its socket, and clients that use its address. -/
def Site.bound : Site (Unit × List (List Text)) where
  machine := { files := { entries := [(⟨false, ["ctl.sock"]⟩, .socket 7)] } }
  listener :=
    { path := "ctl.sock"
      settings := { pid := 4242, requestTimeout := .whole 2, closeTimeout := .ofInt 1 }
      facts := ((), [])
      inode := some 7 }
  address := "ctl.sock"

end ControlChannel
