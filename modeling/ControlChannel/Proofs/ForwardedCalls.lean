import ControlChannel.Proofs.AnyPeer
import ControlChannel.Proofs.ReportedFailures

/-!
# What a call sends

A call of the program meets the processes of its machine in connections.  It asks one of them for
its process id, and forwards its vector only where it is told one.

* `Client.relay_eq_closed_iff` — which octets tell a forwarder the end of the stream;
* `OnlyAsked` — processes that **got requests for their process ids and nothing else**, with one
  lemma for each function that asks them;
* `Machine.peersAfter`, `Machine.peers_of_call` — the processes as a call leaves them, whatever
  becomes of it;
* `Machine.peersAfter_onlyAsked`, `Machine.call_answered` — a call that is told no process id, and
  one that is told one;
* `Machine.call_forwards_exactly` — **a call forwards its vector once to a process that answers, and
  never to any other**;
* `Machine.forwarding_depends` — what becomes of it depends on what follows the end of the stream,
  on the process, and on the time.
-/

namespace ControlChannel

/-! ### The answer to a forwarder -/

namespace Frame

/-- Packets that have frames are packets in front of what follows them. -/
theorem packets_octets (texts : List Text)
    (h : ∀ text ∈ texts, ∃ frame, encode (.packet text) = .ok frame) (messages : List Message) :
    Packets (octets (texts.map .packet ++ messages)) texts (octets messages) := by
  induction texts with
  | nil => exact .nothing _
  | cons text texts ih =>
    obtain ⟨⟨frame, hframe⟩, hlater⟩ := List.forall_mem_cons.1 h
    rw [List.map_cons, List.cons_append, octets_cons hframe]
    exact .packet (decode_encode hframe) (ih hlater)

/-- Octets that begin with the end of the stream begin with no packet. -/
theorem Begins.no_packet {bytes : Bytes} (h : Begins bytes .closeSocket) (text : Text) :
    ¬ Begins bytes (.packet text) := by
  obtain ⟨_, hcloses⟩ := begins_iff.1 h
  rw [begins_iff, hcloses]
  rintro ⟨_, ⟨⟩⟩

theorem begins_octets {m : Message} {frame : Bytes} (h : encode m = .ok frame)
    (messages : List Message) : Begins (octets (m :: messages)) m :=
  ⟨frame, octets messages, octets_cons h messages, decode_encode h⟩

end Frame

namespace Client

/-- **A forwarder is told the end exactly by packets with the end of the stream behind them**, and
shows their texts.  What follows, and whether the peer hangs up, does not matter. -/
theorem relay_eq_closed_iff (path : Text) (d : Delivery) (texts : List Text) :
    relay path d = { shown := texts, ending := .closed } ↔
      ∃ left, Frame.Packets d.bytes texts left ∧ Frame.Begins left .closeSocket := by
  obtain ⟨bytes, manner⟩ := d
  constructor
  · intro h
    -- behind all packets in front only one more message is read
    obtain ⟨front, left, hpackets, hnone⟩ := Frame.exists_packets bytes
    rw [hpackets.relay path manner, relay_eq] at h
    cases hreceive : Delivery.receive { bytes := left, manner } with
    | message m rest =>
      obtain ⟨frame, later, hbytes, hdecode, -⟩ := Delivery.receive_eq_message_iff.1 hreceive
      have hbegins : Frame.Begins left m := ⟨frame, later, hbytes, hdecode⟩
      rw [hreceive] at h
      cases m with
      | packet text => exact absurd hbegins (hnone text)
      | closeSocket =>
        obtain rfl : front = texts := by simpa using h
        exact ⟨left, hpackets, hbegins⟩
      | _ => cases h
    | _ =>
      rw [hreceive] at h
      cases h
  · rintro ⟨left, hpackets, hcloses⟩
    obtain ⟨rest, hfront⟩ := Frame.begins_iff.1 hcloses
    rw [hpackets.relay path manner, relay_of_front? path hfront fun text h => by cases h]
    simp [follow]

end Client

/-- A relay is told the end, and a stream takes all that it shows. -/
def Relay.Succeeds (relay : Relay) (charset : Charset) : Prop :=
  relay.ending = .closed ∧ ∀ text ∈ relay.shown, charset.Takes text

/-! ### The machine that a call leaves -/

/-- The machine that a call leaves, or that a service runs on. -/
def Call.machine : Call → Machine
  | .ended outcome => outcome.machine
  | .running service _ => service.site.machine

namespace Machine

variable [ConsoleLibrary] {m : Machine} {screen : Screen} {environment : Environment}
  {argv : List Text} {path : Text}

/-- What sending a vector leaves is what forwarding it leaves, and only a relay that succeeds gives
status 0. -/
theorem machine_of_send {outcome : Outcome}
    (h : m.send screen environment path argv = .ok outcome) :
    outcome.machine = (m.forward path argv).2 ∧
      (outcome.exit = .status 0 → (m.forward path argv).1.Succeeds screen.charset) := by
  unfold send at h
  generalize m.forward path argv = forwarded at h ⊢
  obtain ⟨relay, after⟩ := forwarded
  dsimp only at h ⊢
  cases hshown : screen.writeAll relay.shown with
  | error fault =>
    rw [hshown] at h
    cases h
  | ok shown =>
    rw [hshown] at h
    dsimp only [bind, Except.bind] at h
    split at h
    · rename_i hclosed
      cases h
      exact ⟨rfl, fun _ => ⟨hclosed, (Screen.writeAll_eq_ok_iff.1 hshown).1⟩⟩
    · cases hconsole : ConsoleLibrary.opened environment with
      | error fault =>
        rw [hconsole] at h
        cases h
      | ok opened =>
        rw [hconsole] at h
        obtain ⟨hmachine, hexit, -⟩ := complain_ends h
        exact ⟨hmachine, fun hzero => by rw [hexit] at hzero; cases hzero⟩
    · cases h
    · cases h
      exact ⟨rfl, fun hzero => by cases hzero⟩

theorem send_of_succeeds (screen : Screen) (environment : Environment)
    (h : (m.forward path argv).1.Succeeds screen.charset) :
    ∃ outcome, m.send screen environment path argv = .ok outcome ∧
      outcome.exit = .status 0 := by
  obtain ⟨hclosed, htakes⟩ := h
  have hforward : m.forward path argv
      = ({ shown := (m.forward path argv).1.shown, ending := .closed }, (m.forward path argv).2) := by
    rw [← hclosed]
  rw [send_of_closed screen environment hforward, Screen.writeAll_of_takes htakes]
  exact ⟨_, rfl, rfl⟩

end Machine

/-! ### Processes that are asked -/

/-- Each process afterwards is one from before that got requests for its process id, and nothing
else. -/
def OnlyAsked (before after : List Peer) : Prop :=
  ∀ peer ∈ after, ∃ known ∈ before, peer.inode = known.inode ∧
    ∃ n, peer.received = known.received ++ List.replicate n .idRequest

namespace OnlyAsked

theorem refl (peers : List Peer) : OnlyAsked peers peers :=
  fun peer hpeer => ⟨peer, hpeer, rfl, 0, (List.append_nil _).symm⟩

theorem trans {first second third : List Peer} (h : OnlyAsked first second)
    (h' : OnlyAsked second third) : OnlyAsked first third := by
  intro peer hpeer
  obtain ⟨between, hbetween, hinode, n, hreceived⟩ := h' peer hpeer
  obtain ⟨known, hknown, hsame, k, hbefore⟩ := h between hbetween
  refine ⟨known, hknown, hinode.trans hsame, k + n, ?_⟩
  rw [hreceived, hbefore, List.append_assoc, List.replicate_append_replicate]

end OnlyAsked

namespace Machine

/-- Of messages that are all the same some reach a peer, all or none. -/
theorem passed_replicate (intake : Intake) (n : Nat) (message : Message) :
    ∃ k, intake.passed (List.replicate n message) = List.replicate k message := by
  cases intake with
  | taken => exact ⟨n, rfl⟩
  | _ => exact ⟨0, rfl⟩

/-- A connection on which requests for a process id are sent. -/
theorem converse_onlyAsked (m : Machine) (path : Text) (n : Nat) :
    OnlyAsked m.peers (m.converse path (List.replicate n .idRequest)).2.peers := by
  unfold converse
  split
  · exact .refl _
  · rename_i inode _
    split
    · rename_i lies reply later received hfind
      intro peer hpeer
      obtain ⟨other, hother, rfl⟩ := List.mem_map.1 hpeer
      split_ifs with hinode
      -- whoever listens on this socket goes on from what the process that was found received
      · have hlies : lies = inode := by simpa using List.find?_some hfind
        obtain ⟨k, hk⟩ := passed_replicate reply.intake n .idRequest
        exact ⟨_, List.mem_of_find?_eq_some hfind, hinode.trans hlies.symm, k,
          congrArg (received ++ ·) hk⟩
      · exact ⟨other, hother, rfl, 0, (List.append_nil _).symm⟩
    · exact .refl _

theorem probe_onlyAsked (m : Machine) (path : Text) (timeout : Instant) :
    OnlyAsked m.peers (m.probe path timeout).2.peers := by
  have hrequest : ∃ n, Client.probeRequest timeout = List.replicate n .idRequest := by
    unfold Client.probeRequest
    split_ifs
    · exact ⟨0, rfl⟩
    · exact ⟨1, rfl⟩
  obtain ⟨n, hn⟩ := hrequest
  unfold probe
  rw [hn]
  dsimp only
  split_ifs
  · exact .refl _
  · exact m.converse_onlyAsked path n

/-- Who waits for a service asks for it again and again. -/
theorem awaitPid_onlyAsked (m : Machine) (path : Text) (timeout : Instant)
    (tenths questions : Nat) :
    OnlyAsked m.peers (m.awaitPid path timeout tenths questions).2.peers := by
  induction questions generalizing m tenths with
  | zero => exact .refl _
  | succ questions ih =>
    have hasked : ∀ {result : Except Failure (Option Pid)} {after : Machine},
        m.probe path timeout = (result, after) → OnlyAsked m.peers after.peers := by
      intro result after hprobe
      have := m.probe_onlyAsked path timeout
      rwa [hprobe] at this
    unfold awaitPid
    split_ifs
    · split
      · exact hasked ‹_›
      · exact hasked ‹_›
      · exact (hasked ‹_›).trans (ih _ _)
      · exact (hasked ‹_›).trans (ih _ _)
      · exact hasked ‹_›
    · exact .refl _

end Machine

namespace Site

variable {Facts : Type}

@[simp] theorem peers_close (s : Site Facts) : s.close.machine.peers = s.machine.peers := rfl

@[simp] theorem peers_settle (s : Site Facts) : s.settle.machine.peers = s.machine.peers := by
  unfold settle
  split_ifs <;> simp

/-- A start asks who listens at its path, if there is a socket. -/
theorem start_onlyAsked (s : Site Facts) : OnlyAsked s.machine.peers s.start.2.machine.peers := by
  unfold start
  split
  rename_i probed machine hprobed
  have hasked : OnlyAsked s.machine.peers machine.peers := by
    split at hprobed
    · have := s.machine.probe_onlyAsked s.listener.path s.listener.settings.requestTimeout
      rwa [hprobed] at this
    · cases hprobed
      exact .refl _
  dsimp only
  split
  · exact hasked
  · exact hasked

end Site

namespace Service

/-- A service asks who listens at its path before it runs. -/
theorem launch_onlyAsked (s : Service) :
    OnlyAsked s.site.machine.peers s.launch.site.machine.peers := by
  have hasked := s.site.start_onlyAsked
  unfold launch
  generalize s.site.start = started at hasked ⊢
  obtain ⟨result, site⟩ := started
  cases result with
  | error failure => exact hasked
  | ok _ =>
    dsimp only [finish]
    split_ifs
    · simpa using hasked
    · exact hasked

end Service

namespace Machine

section

variable (m : Machine) (setting : CallSetting) (config : Config) (environment : Environment)
  (argv : List Text)

/-- The processes as the start of a service leaves them. -/
def peersServed : List Peer :=
  (Service.ofConfig config setting.pid setting.now m).launch.site.machine.peers

variable [ConsoleLibrary]

/-- The processes as the move of a service to the background leaves them. -/
def peersDetached : List Peer :=
  match setting.screen.printAll (launchLines config), setting.side with
  | .error _, _ => m.peers
  | .ok _, .launcher =>
    match ConsoleLibrary.opened setting.surroundings.environment with
    | .error _ => m.peers
    | .ok _ =>
      (m.awaitPid config.socketPath.toText (.real config.connectTimeout) 0 (m.patience + 1)).2.peers
  | .ok _, .service =>
    match m.openLog config.logFile with
    | .error _ => m.peers
    | .ok opened => opened.peersServed setting config

/-- The processes as a call without a running instance leaves them, whatever becomes of it. -/
def peersAlone : List Peer :=
  match setting.surroundings.readCommand argv with
  | .error _ => m.peers
  | .ok invocation =>
    if ! invocation.isRun then m.peers
    else if invocation.daemon = some true then m.peersDetached setting config
    else m.peersServed setting config

/-- The processes as a call leaves them that comes to its probe, whatever becomes of it. -/
def peersAfter : List Peer :=
  match m.probe config.socketPath.toText (.real config.connectTimeout) with
  | (.error _, after) => after.peers
  | (.ok (some _), after) => (after.forward config.socketPath.toText argv).2.peers
  | (.ok none, after) => after.peersAlone (setting.reached m environment) config argv

end

variable {m : Machine} {setting : CallSetting} {config : Config} {environment : Environment}
  {argv : List Text}

theorem peersServed_onlyAsked (m : Machine) (setting : CallSetting) (config : Config) :
    OnlyAsked m.peers (m.peersServed setting config) :=
  (Service.ofConfig config setting.pid setting.now m).launch_onlyAsked

theorem peers_of_openLog {path : Path} {opened : Machine} (h : m.openLog path = .ok opened) :
    opened.peers = m.peers := by
  unfold openLog at h
  split at h
  · cases h
    rfl
  · cases h

section

variable [ConsoleLibrary] {console : ConsoleLibrary.Opened}

theorem peers_of_serve {screen : Screen} {call : Call}
    (h : m.serve setting console config screen = .ok call) :
    call.machine.peers = m.peersServed setting config := by
  unfold peersServed
  unfold serve at h
  dsimp only at h
  generalize (Service.ofConfig config setting.pid setting.now m).launch = service at h ⊢
  split at h
  · obtain ⟨outcome, htold, rfl⟩ := exists_of_map_ended h
    exact congrArg peers (complain_ends htold).1
  · cases h
    rfl
  · cases h
  · cases h
    rfl

theorem peers_of_awaitDaemon {screen : Screen} {name path log : Text} {timeout : Instant}
    {outcome : Outcome} (h : m.awaitDaemon screen environment name path log timeout = .ok outcome) :
    ∃ opened, ConsoleLibrary.opened environment = .ok opened ∧
      outcome.machine.peers = (m.awaitPid path timeout 0 (m.patience + 1)).2.peers := by
  unfold awaitDaemon at h
  cases hopened : ConsoleLibrary.opened environment with
  | error fault =>
    rw [hopened] at h
    cases h
  | ok opened =>
    refine ⟨opened, rfl, ?_⟩
    rw [hopened] at h
    dsimp only [Except.mapError, bind, Except.bind] at h
    generalize m.awaitPid path timeout 0 (m.patience + 1) = awaited at h ⊢
    split at h
    · cases h
    all_goals
      split at h
      · cases h
      · cases h
        rfl

theorem peers_of_detach {call : Call}
    (h : m.detach setting console config setting.screen = .ok call) :
    call.machine.peers = m.peersDetached setting config := by
  unfold detach at h
  unfold peersDetached
  cases hprinted : setting.screen.printAll (launchLines config) with
  | error fault =>
    rw [hprinted] at h
    cases h
  | ok printed =>
    rw [hprinted] at h
    cases hside : setting.side with
    | launcher =>
      rw [hside] at h
      dsimp only [bind, Except.bind] at h ⊢
      split at h
      · cases h
      · rename_i outcome hawaited
        cases h
        obtain ⟨opened, hopened, hpeers⟩ := peers_of_awaitDaemon hawaited
        rw [hopened]
        exact hpeers
    | service =>
      rw [hside] at h
      dsimp only [bind, Except.bind] at h ⊢
      cases hlog : m.openLog config.logFile with
      | error fault =>
        rw [hlog] at h
        cases h
      | ok opened =>
        rw [hlog] at h
        exact peers_of_serve h

theorem peers_of_callAlone {call : Call}
    (h : m.callAlone setting console config argv = .ok call) :
    call.machine.peers = m.peersAlone setting config argv := by
  unfold callAlone at h
  unfold peersAlone
  dsimp only [bind, Except.bind] at h
  cases hcommand : setting.surroundings.readCommand argv with
  | error refusal =>
    rw [hcommand] at h
    dsimp only at h ⊢
    split at h
    · cases h
    · cases h
      rfl
  | ok invocation =>
    rw [hcommand] at h
    dsimp only at h ⊢
    split_ifs at h ⊢
    · split at h
      · cases h
      · cases h
        rfl
    · exact peers_of_detach h
    · exact peers_of_serve h

/-- **A call that returns leaves the processes as told.** -/
theorem peers_of_call [EnvFile.Reader] (prepares : m.Prepares setting console config environment)
    {call : Call} (h : m.call setting argv = .ok call) :
    call.machine.peers = m.peersAfter setting config environment argv := by
  rw [call_eq prepares] at h
  unfold peersAfter
  split at h
  · rename_i error after hprobe
    rw [hprobe]
    obtain ⟨outcome, htold, rfl⟩ := exists_of_map_ended h
    exact congrArg peers (complain_ends htold).1
  · cases h
  · rename_i pid after hprobe
    rw [hprobe]
    obtain ⟨outcome, hsent, rfl⟩ := exists_of_map_ended h
    exact congrArg peers (machine_of_send hsent).1
  · rename_i after hprobe
    rw [hprobe]
    exact peers_of_callAlone h

theorem peersDetached_onlyAsked (m : Machine) (setting : CallSetting) (config : Config) :
    OnlyAsked m.peers (m.peersDetached setting config) := by
  unfold peersDetached
  split
  · exact .refl _
  · split
    · exact .refl _
    · exact m.awaitPid_onlyAsked _ _ _ _
  · split
    · exact .refl _
    · rename_i opened hlog
      rw [← peers_of_openLog hlog]
      exact opened.peersServed_onlyAsked setting config

theorem peersAlone_onlyAsked (m : Machine) (setting : CallSetting) (config : Config)
    (argv : List Text) : OnlyAsked m.peers (m.peersAlone setting config argv) := by
  unfold peersAlone
  cases setting.surroundings.readCommand argv with
  | error refusal => exact .refl _
  | ok invocation =>
    dsimp only
    split_ifs
    · exact .refl _
    · exact m.peersDetached_onlyAsked setting config
    · exact m.peersServed_onlyAsked setting config

/-- **A call whose probe tells no process id only asks for one.** -/
theorem peersAfter_onlyAsked
    (h : ∀ pid,
      (m.probe config.socketPath.toText (.real config.connectTimeout)).1 ≠ .ok (some pid)) :
    OnlyAsked m.peers (m.peersAfter setting config environment argv) := by
  have hasked := m.probe_onlyAsked config.socketPath.toText (.real config.connectTimeout)
  unfold peersAfter
  generalize m.probe config.socketPath.toText (.real config.connectTimeout) = probed at h hasked ⊢
  obtain ⟨result, after⟩ := probed
  cases result with
  | error failure => exact hasked
  | ok found =>
    cases found with
    | none => exact hasked.trans (after.peersAlone_onlyAsked _ _ _)
    | some pid => exact absurd rfl (h pid)

end

/-! ### A process that answers -/

/-- A probe of a process that tells its id takes one connection of it. -/
theorem probe_of_begins {path : Text} {peer : Peer} (leads : m.LeadsTo path peer)
    {answer : Reply} {later : List Reply} (hreplies : peer.replies = answer :: later)
    (hasked : answer.Asked) {pid : Pid} (hbegins : Frame.Begins answer.bytes (.idResponse pid))
    {timeout : Instant} (hallows : timeout.Allows) :
    m.probe path timeout = (.ok (some pid), m.become
      { peer with
        replies := later
        received := peer.received ++ answer.intake.passed [.idRequest] }) := by
  obtain ⟨htime, hnumber⟩ := hallows
  have hsent : Client.probeRequest timeout = [.idRequest] := by
    rw [Client.probeRequest, hnumber, if_neg Bool.false_ne_true]
  rw [probe, hsent, converse_eq leads hreplies]
  dsimp only
  rw [Client.probe, htime, hnumber, Client.ask_eq_some_iff.2 ⟨hasked, hbegins⟩]
  rfl

/-- What reaches a process of a vector, on the next connection that it takes. -/
def passedOn (replies : List Reply) (argv : List Text) : List Message :=
  replies.head?.elim [] (·.intake.passed [.args argv])

/-- The next connection is answered with packets and then the end of the stream, and the texts of the
packets are taken. -/
def EndsOrderly (charset : Charset) (replies : List Reply) : Prop :=
  ∃ reply rest texts left, replies = reply :: rest ∧ reply.intake = .taken ∧
    Frame.Packets reply.bytes texts left ∧ Frame.Begins left .closeSocket ∧
    ∀ text ∈ texts, charset.Takes text

/-- A forwarder succeeds exactly if its frame is taken, the answer ends orderly, and what it shows is
taken. -/
theorem forward_succeeds_iff (charset : Charset) (path : Text) {argv : List Text} {request : Bytes}
    (hrequest : Frame.encode (.args argv) = .ok request) (reply : Reply) :
    (Client.forward path argv (.ok reply)).Succeeds charset ↔
      reply.intake = .taken ∧ ∃ texts left,
        Frame.Packets reply.bytes texts left ∧ Frame.Begins left .closeSocket ∧
          ∀ text ∈ texts, charset.Takes text := by
  cases hintake : reply.intake with
  | taken =>
    rw [Client.forward_of_taken hrequest path hintake, and_iff_right rfl]
    constructor
    · rintro ⟨hclosed, htakes⟩
      obtain ⟨left, hpackets, hcloses⟩ := (Client.relay_eq_closed_iff path reply.toDelivery
        (Client.relay path reply.toDelivery).shown).1 (by rw [← hclosed])
      exact ⟨_, left, hpackets, hcloses, htakes⟩
    · rintro ⟨texts, left, hpackets, hcloses, htakes⟩
      rw [(Client.relay_eq_closed_iff path reply.toDelivery texts).2 ⟨left, hpackets, hcloses⟩]
      exact ⟨rfl, htakes⟩
  | refused fault =>
    rw [Client.forward_of_refused hrequest path hintake]
    exact iff_of_false (by simp [Relay.Succeeds, Relay.failing]) (by simp)
  | stalled =>
    rw [Client.forward_of_stalled hrequest path hintake]
    exact iff_of_false (by simp [Relay.Succeeds]) (by simp)

/-- **Forwarding takes one connection, if the process takes one more**, and sends the vector on
it. -/
theorem forward_become {path : Text} {peer : Peer} (leads : (m.become peer).LeadsTo path peer)
    {argv : List Text} {request : Bytes} (hrequest : Frame.encode (.args argv) = .ok request)
    (charset : Charset) :
    ((m.become peer).forward path argv).2 = m.become
      { peer with
        replies := peer.replies.tail
        received := peer.received ++ passedOn peer.replies argv } ∧
    (((m.become peer).forward path argv).1.Succeeds charset ↔
      EndsOrderly charset peer.replies) := by
  cases hreplies : peer.replies with
  | nil =>
    rw [forward, converse_of_spent leads hreplies, passedOn, List.head?_nil, Option.elim_none,
      List.append_nil, List.tail_nil, ← hreplies]
    refine ⟨rfl, iff_of_false (fun hends => by cases hends.1) ?_⟩
    rintro ⟨_, _, _, _, hnone, _⟩
    rw [hreplies] at hnone
    cases hnone
  | cons reply rest =>
    rw [forward, converse_eq leads hreplies, Client.forwardRequest_of_encode hrequest]
    refine ⟨become_become m rfl, (forward_succeeds_iff charset path hrequest reply).trans ?_⟩
    constructor
    · rintro ⟨htaken, texts, left, horderly⟩
      exact ⟨reply, rest, texts, left, rfl, htaken, horderly⟩
    · rintro ⟨_, _, texts, left, hsame, htaken, horderly⟩
      cases hsame
      exact ⟨htaken, texts, left, horderly⟩

/-- The machine once a process has told its id to a call, and was sent the vector if it takes
another connection. -/
def forwarded (m : Machine) (peer : Peer) (answer : Reply) (later : List Reply) (argv : List Text) :
    Machine :=
  m.become
    { peer with
      replies := later.tail
      received := peer.received ++ answer.intake.passed [.idRequest] ++ passedOn later argv }

section

variable [ConsoleLibrary] [EnvFile.Reader] {console : ConsoleLibrary.Opened}

/-- A call that meets a process which tells its id forwards its vector, and does nothing else. -/
theorem call_answered (prepares : m.Prepares setting console config environment)
    (hnumber : (Instant.real config.connectTimeout).isNotANumber = false)
    {argv : List Text} {request : Bytes} (hrequest : Frame.encode (.args argv) = .ok request)
    {peer : Peer} (leads : m.LeadsTo config.socketPath.toText peer) {answer : Reply}
    {later : List Reply} (hreplies : peer.replies = answer :: later) (answers : answer.Asked)
    {pid : Pid} (hbegins : Frame.Begins answer.bytes (.idResponse pid)) :
    m.peersAfter setting config environment argv = (m.forwarded peer answer later argv).peers ∧
      (∀ call, m.call setting argv = .ok call →
        ∃ outcome, call = .ended outcome ∧ outcome.machine = m.forwarded peer answer later argv) ∧
      ((∃ outcome, m.call setting argv = .ok (.ended outcome) ∧ outcome.exit = .status 0) ↔
        EndsOrderly setting.charset later) := by
  obtain ⟨notices, hload⟩ := prepares.loads
  let asked : Peer :=
    { peer with
      replies := later
      received := peer.received ++ answer.intake.passed [.idRequest] }
  have hprobe : m.probe config.socketPath.toText (.real config.connectTimeout)
      = (.ok (some pid), m.become asked) :=
    probe_of_begins leads hreplies answers hbegins ⟨Surroundings.load_allowsTime hload, hnumber⟩
  have hasked : (m.become asked).LeadsTo config.socketPath.toText asked := leads.become rfl
  obtain ⟨hforwarded, hsucceeds⟩ := forward_become hasked hrequest setting.charset
  have hcall := (call_of_prepares prepares hprobe argv).2.1 pid rfl
  refine ⟨?peers, ?ends, ?status⟩
  case peers =>
    unfold peersAfter
    rw [hprobe]
    exact congrArg peers hforwarded
  case ends =>
    intro call h
    rw [hcall] at h
    obtain ⟨outcome, hsent, rfl⟩ := exists_of_map_ended h
    exact ⟨outcome, rfl, (machine_of_send hsent).1.trans hforwarded⟩
  case status =>
    refine Iff.trans ?_ hsucceeds
    rw [hcall]
    constructor
    · rintro ⟨outcome, h, hexit⟩
      obtain ⟨_, hsent, ⟨⟩⟩ := exists_of_map_ended h
      exact (machine_of_send hsent).2 hexit
    · intro hends
      obtain ⟨outcome, hsent, hexit⟩ := send_of_succeeds setting.screen environment hends
      exact ⟨outcome, congrArg (Except.map Call.ended) hsent, hexit⟩

/-! ### Which processes get the vector -/

/-- **A call forwards its vector once to a process that answers, and never to any other.**  Take a
call that comes to its probe, and a vector that has a frame.

* If the process at the path answers the first connection with its id, and the call has a time for
  it, the call tries one connection more, to this process.  Where it is taken, just the vector is
  sent; where it is not, nothing.  No other process gets anything, the files stay as they are, and
  no service is started, whatever the vector says.  The call ends with status 0 exactly if the
  process takes this connection and what is sent there, its answer begins with packets and then the
  end of the stream, and the stream of the call takes the texts of the packets.
* If the probe tells no process id, no process gets anything but requests for it, whatever becomes
  of the call.
* What a call leaves that returns is what was told. -/
theorem call_forwards_exactly (prepares : m.Prepares setting console config environment)
    {argv : List Text} {request : Bytes} (hrequest : Frame.encode (.args argv) = .ok request) :
    let path := config.socketPath.toText
    let timeout : Instant := .real config.connectTimeout
    (∀ peer answer later pid, m.LeadsTo path peer → peer.replies = answer :: later →
      answer.Asked → Frame.Begins answer.bytes (.idResponse pid) → timeout.isNotANumber = false →
      let forwarded := m.forwarded peer answer later argv
      m.peersAfter setting config environment argv = forwarded.peers ∧
        (∀ call, m.call setting argv = .ok call →
          ∃ outcome, call = .ended outcome ∧ outcome.machine = forwarded) ∧
        forwarded.files = m.files ∧
        ((∃ outcome, m.call setting argv = .ok (.ended outcome) ∧ outcome.exit = .status 0) ↔
          EndsOrderly setting.charset later)) ∧
    ((∀ pid, (m.probe path timeout).1 ≠ .ok (some pid)) →
      OnlyAsked m.peers (m.peersAfter setting config environment argv)) ∧
    ∀ call, m.call setting argv = .ok call →
      call.machine.peers = m.peersAfter setting config environment argv := by
  intro path timeout
  refine ⟨?_, peersAfter_onlyAsked, fun call => peers_of_call prepares⟩
  intro peer answer later pid leads hreplies answers hbegins hnumber forwarded
  obtain ⟨hpeers, hends, hstatus⟩ :=
    call_answered prepares hnumber hrequest leads hreplies answers hbegins
  exact ⟨hpeers, hends, rfl, hstatus⟩

end

/-- A machine with a process that answers its first connection with this. -/
def meeting (answer : Reply) (later : List Reply) : Machine where
  files := { entries := [(⟨false, ["ctl.sock"]⟩, .socket 7)] }
  peers := [{ inode := 7, replies := answer :: later }]

theorem meeting_leads (answer : Reply) (later : List Reply) :
    (meeting answer later).LeadsTo "ctl.sock" { inode := 7, replies := answer :: later } :=
  ⟨rfl, rfl⟩

theorem prepares_meeting (answer : Reply) (later : List Reply) :
    (meeting answer later).Prepares (.withVariables .usual)
      Console.plain .usual .usual :=
  prepares_usual rfl

/-- The answer of a process that tells its id. -/
def told : Reply := { bytes := Site.toldPid }

theorem begins_told : Frame.Begins told.bytes (.idResponse 77) :=
  ⟨Site.toldPid, [], (List.append_nil _).symm, Frame.decode_encode (m := .idResponse 77) rfl⟩

/-- A vector that asks for a service is forwarded to the one that runs; a process that hangs up
without a word is only asked. -/
theorem run_forwarded :
    let argv : List Text := ["prog", "run", "--daemon"]
    let setting : CallSetting := .withVariables .usual
    let m := meeting told [{ bytes := Frame.octets [.packet "a", .closeSocket] }]
    (∃ outcome, m.call setting argv = .ok (.ended outcome) ∧ outcome.exit = .status 0 ∧
      outcome.machine.files = m.files ∧ outcome.machine.peers
        = [{ inode := 7, replies := [], received := [.idRequest, .args argv] }]) ∧
    OnlyAsked (meeting {} []).peers ((meeting {} []).peersAfter setting .usual .usual argv) := by
  intro argv setting m
  have hrequest : Frame.encode (.args argv) = .ok _ := rfl
  constructor
  · let reply : Reply := { bytes := Frame.octets [.packet "a", .closeSocket] }
    obtain ⟨-, hends, hfiles, hstatus⟩ :=
      (call_forwards_exactly (prepares_meeting told [reply]) hrequest).1
        _ told _ 77 (meeting_leads told _) rfl (Reply.asked_of_taken rfl) begins_told rfl
    have hpackets := Frame.packets_octets ["a"] (by simpa using ⟨_, rfl⟩) [.closeSocket]
    obtain ⟨outcome, hcall, hexit⟩ := hstatus.2
      ⟨_, [], ["a"], _, rfl, rfl, hpackets, Frame.begins_octets rfl [], by decide⟩
    obtain ⟨_, ⟨⟩, hmachine⟩ := hends _ hcall
    exact ⟨outcome, hcall, hexit, by rw [hmachine]; exact hfiles, by rw [hmachine]; rfl⟩
  · have hnone : ((meeting {} []).probe "ctl.sock" (.real Config.usual.connectTimeout)).1
        = .ok none := rfl
    refine (call_forwards_exactly (prepares_meeting {} []) hrequest).2.1 fun pid h => ?_
    cases hnone.symm.trans h

/-- What the forwarding of a vector depends on.

* Octets behind the end of the stream do not keep a call from status 0.
* A process that tells its id, and takes no other connection, gets no vector.
* A call that has a time which is not a number forwards nothing, though the process tells its id. -/
theorem forwarding_depends :
    let argv : List Text := ["prog", "status"]
    let reply : Reply :=
      { bytes := Frame.octets [.packet "x", .closeSocket, .packet "y"] }
    (∃ request, Frame.encode (.args argv) = .ok request) ∧
      Frame.Begins told.bytes (.idResponse 77) ∧
    ((∃ outcome, (meeting told [reply]).call (.withVariables .usual) argv = .ok (.ended outcome) ∧
        outcome.exit = .status 0) ∧
      ¬ ∃ texts frame, Frame.Packets reply.bytes texts frame ∧
        Frame.decode frame = .ok .closeSocket) ∧
    (∀ call, (meeting told []).call (.withVariables .usual) argv = .ok call →
      call.machine.peers = [{ inode := 7, replies := [], received := [.idRequest] }]) ∧
    ∀ call, (meeting told [reply]).call (.withVariables .timeless) argv = .ok call →
      call.machine.peers = [{ inode := 7, replies := [reply], received := [] }] := by
  intro argv reply
  have hrequest : Frame.encode (.args argv) = .ok _ := rfl
  have hpackets := Frame.packets_octets ["x"] (by simpa using ⟨_, rfl⟩)
    [.closeSocket, .packet "y"]
  have hcloses : Frame.Begins (Frame.octets [.closeSocket, .packet "y"]) .closeSocket :=
    Frame.begins_octets rfl _
  refine ⟨⟨_, hrequest⟩, begins_told, ⟨?trailing, ?strict⟩, ?spent, ?timeless⟩
  case trailing =>
    obtain ⟨-, -, hstatus⟩ := call_answered (prepares_meeting told [reply]) rfl hrequest
      (meeting_leads told _) rfl (Reply.asked_of_taken rfl) begins_told
    exact hstatus.2 ⟨_, _, _, _, rfl, rfl, hpackets, hcloses, by decide⟩
  case strict =>
    rintro ⟨texts, frame, hothers, hdecode⟩
    have hends : Frame.Begins frame .closeSocket :=
      ⟨frame, [], (List.append_nil _).symm, hdecode⟩
    -- octets begin with as many packets in one way, so that `frame` is all that is left behind `x`
    obtain ⟨-, rfl⟩ := (hothers.leading hends.no_packet).unique (hpackets.leading hcloses.no_packet)
    cases hdecode
  case spent =>
    intro call h
    obtain ⟨hpeers, -, -⟩ := call_answered (prepares_meeting told []) rfl hrequest
      (meeting_leads told _) rfl (Reply.asked_of_taken rfl) begins_told
    rw [peers_of_call (prepares_meeting told []) h, hpeers]
    rfl
  case timeless =>
    intro call h
    have prepares : (meeting told [reply]).Prepares (.withVariables .timeless)
        Console.plain
        { Config.usual with connectTimeout := .nan } .timeless :=
      ⟨rfl, ⟨[], rfl⟩, ⟨20, rfl⟩⟩
    rw [peers_of_call prepares h]
    rfl

end Machine

end ControlChannel
