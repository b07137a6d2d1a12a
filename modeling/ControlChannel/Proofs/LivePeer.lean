import ControlChannel.Proofs.BoundSocket
import ControlChannel.Proofs.ConnectionAnswer
import ControlChannel.Proofs.DecodedStream
import ControlChannel.Site

/-!
# Which peers a start displaces

A start that finds a socket at its path connects to it, and removes it if the probe finds no one
there.  What the probe finds depends on the octets of the peer and on the way in which it ends.

* `Reply.Leaves`, `Reply.Baffles` — a peer that goes without a word, and one whose answer holds a tag
  that cannot be looked up;
* `Reader.head?_run_pieces` — in which pieces the octets arrive does not matter;
* `Binding.judge_ask`, `Binding.judge_unasked` — what a start makes of a peer that it can ask, and of
  one that it cannot;
* `Binding.start_of_refused`, `Binding.start_of_clear` — a start leaves all as it is, or the socket
  is gone;
* `Site.start_of_verdict` — and so does a start of a listener;
* `Site.start_displaces_exactly` — **a peer that takes connections is refused its place exactly if it
  leaves without a word**.
-/

namespace ControlChannel

/-! ### What a peer may do -/

namespace Delivery

/-- The peer goes without a word: it hangs up before its first octet, or the connection is reset
before its first frame is whole. -/
def Leaves (d : Delivery) : Prop :=
  d.manner = .hangsUp ∧ d.bytes = [] ∨ d.manner = .breaks ∧ Frame.front? d.bytes = none

/-- The first frame of the peer holds a tag that cannot even be looked up. -/
def Baffles (d : Delivery) : Prop :=
  ∃ kind rest, Frame.front? d.bytes = some (.error (.payload (.compositeTag kind)), rest)

end Delivery

namespace Reply

/-- The request of a probe can be sent. -/
def Asked (reply : Reply) : Prop := ∀ fault, reply.intake ≠ .refused fault

/-- The peer goes without a word: it is gone before it can be asked, or it leaves when it is asked. -/
def Leaves (reply : Reply) : Prop :=
  (∃ fault ∈ [.connectionReset, .connectionLost, .brokenPipe], reply.intake = .refused fault) ∨
    reply.Asked ∧ reply.toDelivery.Leaves

/-- The peer is asked, and its first frame holds a tag that cannot even be looked up. -/
def Baffles (reply : Reply) : Prop := reply.Asked ∧ reply.toDelivery.Baffles

/-- A peer that takes what is sent can be asked. -/
theorem asked_of_taken {reply : Reply} (taken : reply.intake = .taken) : reply.Asked := by
  intro fault
  rw [taken]
  exact nofun

end Reply

/-- There is time for an answer. -/
def Instant.Allows (t : Instant) : Prop := t.isAtMostZero = false ∧ t.isNotANumber = false

instance (t : Instant) : Decidable t.Allows :=
  inferInstanceAs (Decidable (t.isAtMostZero = false ∧ t.isNotANumber = false))

/-! ### Pieces -/

namespace Reader

/-- Octets that arrive start no read. -/
theorem started_pieces (r : Reader) (pieces : List Bytes) : r.started (pieces.map .feed) = 0 := by
  induction pieces generalizing r with
  | nil => rfl
  | cons piece pieces ih =>
    show (r.wants (.feed piece) && ! r.reading).toNat + _ = 0
    rw [ih, show r.wants (.feed piece) = r.reading by simp [wants], Bool.and_not_self]
    rfl

/-- **In which pieces octets arrive does not matter** for a read that waits for them: it gives what
the first frame decides, as soon as that is there. -/
theorem head?_run_pieces (pieces : List Bytes) :
    (fresh.run (.begin :: pieces.map .feed)).head? = (Frame.front? pieces.flatten).map (·.1) := by
  have hopen : .finish ∉ Event.begin :: pieces.map .feed := by simp
  have hfed : fed (.begin :: pieces.map .feed) = pieces.flatten := by
    simp [fed, Event.octets, List.flatMap_map]
  have hstarted : fresh.started (.begin :: pieces.map .feed) = 1 := by
    show 1 + _ = 1
    rw [started_pieces]
  rw [head?_run hopen (hstarted ▸ Nat.one_ne_zero), hfed]

end Reader

/-! ### What a probe makes of a peer -/

/-- A frame that is whole never reads as the end of a stream. -/
theorem Frame.front?_error {bytes rest : Bytes} {fault : ReadFault}
    (h : front? bytes = some (.error fault, rest)) : ∃ refused, fault = .payload refused := by
  unfold front? at h
  split at h
  · cases h
  · split at h
    · cases h
      exact ⟨_, rfl⟩
    · split at h
      · cases h
      · rename_i body later _
        rw [Option.some.injEq, Prod.mk.injEq] at h
        cases hmessage : messageOf body with
        | ok m =>
          rw [hmessage] at h
          cases h.1
        | error refused =>
          rw [hmessage] at h
          cases h.1
          exact ⟨refused, rfl⟩

/-- Octets begin with a frame of a message exactly if it is what their first frame holds. -/
theorem Frame.begins_iff {bytes : Bytes} {m : Message} :
    Begins bytes m ↔ ∃ rest, front? bytes = some (.ok m, rest) := by
  constructor
  · rintro ⟨frame, rest, hbytes, hdecode⟩
    exact ⟨rest, front?_eq_ok_iff.2 ⟨frame, hbytes, hdecode⟩⟩
  · rintro ⟨rest, hfront⟩
    obtain ⟨frame, hbytes, hdecode⟩ := front?_eq_ok_iff.1 hfront
    exact ⟨frame, rest, hbytes, hdecode⟩

/-- What a read comes to whose octets decide nothing and end: the end of the stream if there are
none, a frame cut short if there are some. -/
theorem Reader.advanceHeader_of_cut {r : Reader} (h : Frame.front? r.buffer = none)
    (hended : r.ended = true) :
    r.buffer = [] ∧ r.advanceHeader.1 = some (.error .closed) ∨
      r.buffer ≠ [] ∧ ∃ fault, r.advanceHeader.1 = some (.error (.payload (.protocol fault))) := by
  obtain ⟨result, rest, htakes⟩ := Frame.exists_takes r.buffer
  rw [advanceHeader_of_ended hended, htakes.eq_first]
  obtain ⟨hnone, rfl⟩ | ⟨hsome, fault, rfl⟩ := htakes.of_undecided h
  · exact .inl ⟨hnone, rfl⟩
  · exact .inr ⟨hsome, fault, rfl⟩

namespace Delivery

/-- Reading a delivery as the header of its first frame, and whatever comes of that. -/
theorem receive_eq (d : Delivery) :
    d.receive =
      match ({ d.reader with phase := some .header } : Reader).advanceHeader with
      | (some (.ok m), reader) => .message m { d with bytes := reader.buffer }
      | (some (.error fault), _) => .refused fault
      | (none, _) => if d.manner = .breaks then .broken else .silence := rfl

/-- A peer whose octets decide nothing leaves, or falls silent, or cuts its frame short. -/
theorem receive_of_front?_none {d : Delivery} (h : Frame.front? d.bytes = none) :
    d.Leaves ∧ (d.receive = .refused .closed ∨ d.receive = .broken) ∨
      ¬ d.Leaves ∧ ((∃ fault, d.receive = .refused (.payload (.protocol fault))) ∨
        d.receive = .silence) := by
  have hopen := Reader.advanceHeader_of_undecided
    (r := { d.reader with phase := some .header }) h
  have hcut := Reader.advanceHeader_of_cut (r := { d.reader with phase := some .header }) h
  rw [receive_eq]
  rw [show ({ d.reader with phase := some .header } : Reader).buffer = d.bytes from rfl] at hcut
  generalize ({ d.reader with phase := some .header } : Reader).advanceHeader = outcome
    at hopen hcut ⊢
  obtain ⟨result, reader⟩ := outcome
  cases hmanner : d.manner with
  | hangsUp =>
    obtain ⟨hnone, hresult⟩ | ⟨hsome, fault, hresult⟩ := hcut (by simp [Delivery.reader, hmanner])
    · obtain rfl : result = _ := hresult
      exact .inl ⟨.inl ⟨hmanner, hnone⟩, .inl rfl⟩
    · obtain rfl : result = _ := hresult
      refine .inr ⟨?_, .inl ⟨fault, rfl⟩⟩
      rintro (⟨_, hnone⟩ | ⟨hbreaks, _⟩)
      · exact hsome hnone
      · rw [hmanner] at hbreaks
        cases hbreaks
  | staysSilent =>
    rw [if_neg (by simp [Delivery.reader, hmanner])] at hopen
    obtain rfl : result = none := hopen
    refine .inr ⟨?_, .inr rfl⟩
    rintro (⟨hhangs, _⟩ | ⟨hbreaks, _⟩)
    · rw [hmanner] at hhangs
      cases hhangs
    · rw [hmanner] at hbreaks
      cases hbreaks
  | breaks =>
    rw [if_neg (by simp [Delivery.reader, hmanner])] at hopen
    obtain rfl : result = none := hopen
    exact .inl ⟨.inr ⟨hmanner, h⟩, .inr rfl⟩

/-- A peer that leaves has said nothing that decides anything. -/
theorem Leaves.front?_eq_none {d : Delivery} (h : d.Leaves) : Frame.front? d.bytes = none := by
  obtain ⟨_, hnone⟩ | ⟨_, hundecided⟩ := h
  · rw [hnone]
    rfl
  · exact hundecided

end Delivery

namespace Reply

variable {reply : Reply}

/-- A peer that baffles a probe does not leave. -/
theorem not_leaves_of_baffles (baffles : reply.Baffles) : ¬ reply.Leaves := by
  obtain ⟨hasked, kind, rest, hbaffled⟩ := baffles
  rintro (⟨fault, _, hrefused⟩ | ⟨_, hleaves⟩)
  · exact hasked fault hrefused
  · rw [hleaves.front?_eq_none] at hbaffled
    cases hbaffled

/-- A peer that is asked and tells a process id neither leaves nor baffles the probe. -/
theorem decided (asked : reply.Asked) {pid : Int}
    (tells : ∃ p : Pid, pid = p.val ∧ Frame.Begins reply.bytes (.idResponse p)) :
    ¬ reply.Leaves ∧ ¬ reply.Baffles := by
  obtain ⟨p, _, hbegins⟩ := tells
  obtain ⟨rest, hfront⟩ := Frame.begins_iff.1 hbegins
  refine ⟨?_, ?_⟩
  · rintro (⟨fault, _, hrefused⟩ | ⟨_, hleaves⟩)
    · exact asked fault hrefused
    · rw [hleaves.front?_eq_none] at hfront
      cases hfront
  · rintro ⟨_, kind, other, hbaffled⟩
    rw [hbaffled] at hfront
    cases hfront

end Reply

namespace Binding

variable {path : Text} {timeout : Instant} {d : Delivery}

/-- **A peer that leaves is taken for none.** -/
theorem judge_of_leaves (h : d.Leaves) : judge path (Client.pidOf path timeout d) = .ok () := by
  obtain ⟨_, hreceive | hreceive⟩ | ⟨hstays, _⟩ := Delivery.receive_of_front?_none h.front?_eq_none
  · rw [Client.pidOf, hreceive]
    rfl
  · rw [Client.pidOf, hreceive]
    rfl
  · exact absurd h hstays

/-- A tag that cannot be looked up is a failure of another kind than those that are expected. -/
theorem judge_of_baffles (h : d.Baffles) :
    ∃ kind, judge path (Client.pidOf path timeout d) = .error (.compositeTag kind) := by
  obtain ⟨kind, rest, hfront⟩ := h
  refine ⟨kind, ?_⟩
  rw [Client.pidOf, Delivery.receive_of_front?_error hfront]
  rfl

/-- **Every other peer runs**, and its process id is known exactly if its octets begin with a frame
of it. -/
theorem judge_of_stays (path : Text) (timeout : Instant) (hstays : ¬ d.Leaves)
    (hplain : ¬ d.Baffles) :
    ∃ pid?, judge path (Client.pidOf path timeout d) = .error (.control (.alreadyRunning path pid?)) ∧
      ∀ pid, pid? = some pid ↔ ∃ p : Pid, pid = p.val ∧ Frame.Begins d.bytes (.idResponse p) := by
  -- the process id of an answer that is none
  have hnone : (∀ p rest, Frame.front? d.bytes ≠ some (.ok (.idResponse p), rest)) →
      ∀ pid : Int, none = some pid ↔
        ∃ p : Pid, pid = p.val ∧ Frame.Begins d.bytes (.idResponse p) := by
    intro hother pid
    refine iff_of_false (fun h => by cases h) ?_
    rintro ⟨p, _, hp⟩
    obtain ⟨rest, hfront⟩ := Frame.begins_iff.1 hp
    exact hother p rest hfront
  unfold Client.pidOf
  cases hfront : Frame.front? d.bytes with
  | none =>
    obtain ⟨hleaves, _⟩ | ⟨_, ⟨fault, hreceive⟩ | hreceive⟩ := Delivery.receive_of_front?_none hfront
    · exact absurd hleaves hstays
    · rw [hreceive]
      exact ⟨none, rfl, hnone (by simp [hfront])⟩
    · rw [hreceive]
      exact ⟨none, rfl, hnone (by simp [hfront])⟩
  | some outcome =>
    obtain ⟨result, rest⟩ := outcome
    cases result with
    | error fault =>
      obtain ⟨refused, rfl⟩ := Frame.front?_error hfront
      rw [Delivery.receive_of_front?_error hfront]
      cases refused with
      | protocol fault => exact ⟨none, rfl, hnone (by simp [hfront])⟩
      | compositeTag kind => exact absurd ⟨kind, rest, hfront⟩ hplain
    | ok m =>
      rw [Delivery.receive_of_front? hfront]
      cases m with
      | idResponse p =>
        refine ⟨some p.val, rfl, fun pid => ⟨?_, ?_⟩⟩
        · intro hpid
          exact ⟨p, (Option.some.inj hpid).symm, Frame.begins_iff.2 ⟨rest, hfront⟩⟩
        · rintro ⟨other, rfl, hother⟩
          obtain ⟨rest', hfront'⟩ := Frame.begins_iff.1 hother
          rw [hfront, Option.some.injEq, Prod.mk.injEq, Except.ok.injEq,
            Message.idResponse.injEq] at hfront'
          rw [hfront'.1]
      | _ => exact ⟨none, rfl, hnone (by simp [hfront])⟩

/-- A request that cannot be sent tells that no one is there exactly if the connection is gone;
otherwise there may be someone. -/
theorem judge_unasked (path : Text) (timeout : Instant) (fault : OsFault) :
    fault ∈ [.connectionReset, .connectionLost, .brokenPipe] ∧
        judge path (Client.unasked path timeout fault) = .ok () ∨
      fault ∉ [.connectionReset, .connectionLost, .brokenPipe] ∧
        judge path (Client.unasked path timeout fault) =
          .error (.control (.alreadyRunning path none)) := by
  cases fault with
  | connectionReset => exact .inl ⟨by decide, rfl⟩
  | connectionLost => exact .inl ⟨by decide, rfl⟩
  | brokenPipe => exact .inl ⟨by decide, rfl⟩
  | _ => exact .inr ⟨by simp, rfl⟩

/-- Whether a probe that had its connection taken finds someone there: not if the peer leaves, and it
fails in its own way if the peer baffles it. -/
theorem judge_ask (path : Text) (timeout : Instant) (reply : Reply) :
    let verdict := judge path (Client.ask path timeout reply)
    reply.Leaves ∧ verdict = .ok () ∨
      reply.Baffles ∧ (∃ kind, verdict = .error (.compositeTag kind)) ∨
      ¬ (reply.Leaves ∨ reply.Baffles) ∧
        ∃ pid?, verdict = .error (.control (.alreadyRunning path pid?)) ∧
          ∀ pid, pid? = some pid ↔ reply.Asked ∧
            ∃ p : Pid, pid = p.val ∧ Frame.Begins reply.bytes (.idResponse p) := by
  intro verdict
  by_cases hasked : reply.Asked
  · have hverdict : verdict = judge path (Client.pidOf path timeout reply.toDelivery) := by
      show judge path (Client.ask path timeout reply) = _
      unfold Client.ask
      split
      · rename_i fault hrefused
        exact absurd hrefused (hasked fault)
      · rfl
    rw [hverdict]
    by_cases hleaves : reply.toDelivery.Leaves
    · exact .inl ⟨.inr ⟨hasked, hleaves⟩, judge_of_leaves hleaves⟩
    · by_cases hbaffles : reply.toDelivery.Baffles
      · exact .inr (.inl ⟨⟨hasked, hbaffles⟩, judge_of_baffles hbaffles⟩)
      · obtain ⟨pid?, hjudge, hpid⟩ := judge_of_stays path timeout hleaves hbaffles
        refine .inr (.inr ⟨?_, pid?, hjudge, fun pid => (hpid pid).trans (and_iff_right hasked).symm⟩)
        rintro ((⟨fault, _, hrefused⟩ | ⟨_, hleft⟩) | ⟨_, hbaffled⟩)
        exacts [hasked fault hrefused, hleaves hleft, hbaffles hbaffled]
  · obtain ⟨fault, hrefused⟩ := not_forall_not.1 hasked
    have hverdict : verdict = judge path (Client.unasked path timeout fault) := by
      show judge path (Client.ask path timeout reply) = _
      rw [Client.ask, hrefused]
    rw [hverdict]
    obtain ⟨hgone, hjudge⟩ | ⟨hother, hjudge⟩ := judge_unasked path timeout fault
    · exact .inl ⟨.inl ⟨fault, hgone, hrefused⟩, hjudge⟩
    · refine .inr (.inr ⟨?_, none, hjudge, fun pid => iff_of_false nofun fun h => hasked h.1⟩)
      rintro ((⟨other, hgone, hsame⟩ | ⟨h, _⟩) | ⟨h, _⟩)
      · rw [hrefused, Intake.refused.injEq] at hsame
        exact hother (hsame ▸ hgone)
      · exact hasked h
      · exact hasked h

theorem judge_probe_taken (path : Text) (timeout : Instant) (reply : Reply) :
    let verdict := judge path (Client.probe path timeout (.ok reply))
    timeout.Allows ∧ reply.Leaves ∧ verdict = .ok () ∨
      timeout.Allows ∧ reply.Baffles ∧ (∃ kind, verdict = .error (.compositeTag kind)) ∨
      ¬ (timeout.Allows ∧ (reply.Leaves ∨ reply.Baffles)) ∧
        ∃ pid?, verdict = .error (.control (.alreadyRunning path pid?)) ∧
          ∀ pid, pid? = some pid ↔ timeout.Allows ∧ reply.Asked ∧
            ∃ p : Pid, pid = p.val ∧ Frame.Begins reply.bytes (.idResponse p) := by
  intro verdict
  by_cases hallows : timeout.Allows
  · have hverdict : verdict = judge path (Client.ask path timeout reply) := by
      show judge path (Client.probe path timeout (.ok reply)) = _
      rw [Client.probe, hallows.1, if_neg Bool.false_ne_true, hallows.2,
        if_neg Bool.false_ne_true]
    rw [hverdict]
    obtain ⟨hleaves, hjudge⟩ | ⟨hbaffles, hjudge⟩ | ⟨hstays, pid?, hjudge, hpid⟩ :=
      judge_ask path timeout reply
    · exact .inl ⟨hallows, hleaves, hjudge⟩
    · exact .inr (.inl ⟨hallows, hbaffles, hjudge⟩)
    · exact .inr (.inr ⟨fun h => hstays h.2, pid?, hjudge,
        fun pid => (hpid pid).trans (and_iff_right hallows).symm⟩)
  · refine .inr (.inr ⟨fun h => hallows h.1, none, ?_, fun pid => ?_⟩)
    · show judge path (Client.probe path timeout (.ok reply)) = _
      rw [Client.probe]
      cases htime : timeout.isAtMostZero with
      | true => rfl
      | false =>
        have hnumber : timeout.isNotANumber = true := by
          rw [← Bool.not_eq_false]
          exact fun h => hallows ⟨htime, h⟩
        rw [if_neg Bool.false_ne_true, hnumber]
        rfl
    · exact iff_of_false (fun h => by cases h) fun h => hallows h.1

/-- A probe that no one took the connection of finds no one there exactly if the refusal says so, as
far as there was time for a connection. -/
theorem judge_probe_refused (path : Text) (timeout : Instant) (fault : OsFault) :
    judge path (Client.probe path timeout (.error fault)) = .ok () ↔
      timeout.isAtMostZero = false ∧ Client.meansAbsence fault = true := by
  rw [Client.probe]
  cases timeout.isAtMostZero with
  | true => exact iff_of_false (fun h => by cases h) (fun h => by cases h.1)
  | false =>
    rw [if_neg Bool.false_ne_true]
    cases Client.meansAbsence fault with
    | true => exact iff_of_true rfl ⟨rfl, rfl⟩
    | false =>
      refine iff_of_false (fun h => ?_) (fun h => by cases h.2)
      rw [if_neg Bool.false_ne_true, Failure.ofConnect] at h
      split_ifs at h <;> cases h

/-- A start that is refused its path leaves all as it is. -/
theorem start_of_refused {files : FileTree} {inode fresh : Nat}
    {probed : Except Failure (Option Pid)} {failure : Failure}
    (hnode : files.node (Path.ofText path) = .ok (.socket inode))
    (hjudge : judge path probed = .error failure) :
    start files path fresh probed = (.error failure, files) := by
  rw [start, clear, inspect, hnode]
  dsimp only
  rw [hjudge]
  rfl

/-- **A start whose path is free for the taking takes the socket away** that lies there, whether or
not it comes to lie there itself. -/
theorem start_of_clear {files : FileTree} {inode fresh : Nat}
    {probed : Except Failure (Option Pid)}
    (hnode : files.node (Path.ofText path) = .ok (.socket inode)) (hfresh : fresh ≠ inode)
    (hjudge : judge path probed = .ok ()) :
    (start files path fresh probed).2.node (Path.ofText path) ≠ .ok (.socket inode) := by
  obtain ⟨place, hlocate, hplace⟩ := FileTree.node_eq_ok_iff.1 hnode
  have hinside : FileTree.Inside place :=
    FileTree.inside_of_get?_ne (by rw [hplace]; exact nofun)
  have hremoved : remove files path = files.erase place := by rw [remove, hlocate]
  have hthere := (FileTree.erase_keepsWays hplace).locate hlocate
  -- of the trees that come of it, none has a socket at the place but the new one
  have hgone : ∀ t : FileTree, FileTree.Extends (files.erase place) t →
      t.get? place ≠ some (.socket inode) → t.node (Path.ofText path) ≠ .ok (.socket inode) := by
    intro t hextends hnone hsocket
    obtain ⟨other, hother, hlies⟩ := FileTree.node_eq_ok_iff.1 hsocket
    rw [hextends.locate hthere, Except.ok.injEq] at hother
    rw [← hother] at hlies
    exact hnone hlies
  have herased : (files.erase place).get? place ≠ some (.socket inode) := by
    rw [FileTree.get?_erase_self hinside]
    exact nofun
  rw [start, clear, inspect, hnode]
  dsimp only
  rw [hjudge, hremoved]
  dsimp only [Except.map]
  have hmade := FileTree.makeParents_houses (files.erase place) (Path.ofText path)
  generalize (files.erase place).makeParents (Path.ofText path) = housed at hmade ⊢
  obtain ⟨result, made⟩ := housed
  have hsocket : Node.socket inode ≠ .directory := nofun
  have hmissing := hgone made hmade.extends ((hmade.iff_of_ne_directory hsocket).not.2 herased)
  cases result with
  | error fault => exact hmissing
  | ok _ =>
    dsimp only
    cases hbind : bind made path fresh with
    | error failure => exact hmissing
    | ok bound =>
      dsimp only
      intro hsocket
      have hnames := (bind_names hbind).node.symm.trans hsocket
      rw [Except.ok.injEq, Node.socket.injEq] at hnames
      exact hfresh hnames

/-- A socket that cannot be bound tells no process id. -/
theorem bind_error_pid {files : FileTree} {fresh : Nat} {failure : Failure}
    (h : bind files path fresh = .error failure) (pid : Int) :
    failure ≠ .control (.alreadyRunning path (some pid)) := by
  unfold bind at h
  repeat' split at h
  all_goals
    cases h
    try exact nofun

/-- What keeps a start from a path that it may take tells no process id. -/
theorem start_of_clear_pid (fresh : Nat) {files : FileTree} {inode : Nat}
    {probed : Except Failure (Option Pid)}
    (hnode : files.node (Path.ofText path) = .ok (.socket inode)) (hjudge : judge path probed = .ok ())
    (pid : Int) :
    (start files path fresh probed).1 ≠ .error (.control (.alreadyRunning path (some pid))) := by
  rw [start, clear, inspect, hnode]
  dsimp only
  rw [hjudge]
  dsimp only [Except.map]
  split
  · exact nofun
  · split
    · rename_i failure hbind
      intro h
      rw [Except.error.injEq] at h
      exact bind_error_pid hbind pid h
    · exact nofun

end Binding

/-! ### A start -/

/-- A connection leaves the file tree as it is. -/
theorem Machine.converse_files (m : Machine) (address : Text) (sent : List Message) :
    (m.converse address sent).2.files = m.files := by
  unfold converse
  split
  · rfl
  · split <;> rfl

namespace Site

variable {Facts : Type}

/-- A fresh inode is none that lies there. -/
theorem freshInode_ne {s : Site Facts} {path : Path} {inode : Nat}
    (h : s.machine.files.node path = .ok (.socket inode)) : s.freshInode ≠ inode := by
  obtain ⟨place, _, hplace⟩ := FileTree.node_eq_ok_iff.1 h
  have hlt := FileTree.lt_freshInode hplace
  have hle : s.machine.files.freshInode ≤ s.freshInode := Nat.le_max_left _ _
  omega

/-- A start that finds a socket at its path, in terms of what its probe meets. -/
theorem start_of_socket {s : Site Facts} {inode : Nat}
    (h : s.machine.files.node (Path.ofText s.listener.path) = .ok (.socket inode)) :
    let path := s.listener.path
    let timeout := s.listener.settings.requestTimeout
    let contact := (s.machine.converse path (Client.probeRequest timeout)).1
    (s.start.1, s.start.2.machine.files)
      = Binding.start s.machine.files path s.freshInode (Client.probe path timeout contact) := by
  let path := s.listener.path
  let timeout := s.listener.settings.requestTimeout
  let machine := (s.machine.probe path timeout).2
  have hprobe : s.machine.probe path timeout
      = (Client.probe path timeout (s.machine.converse path (Client.probeRequest timeout)).1,
        machine) := rfl
  have hfiles : machine.files = s.machine.files := by
    show (if timeout.isAtMostZero then s.machine else _).files = _
    split_ifs
    · rfl
    · exact Machine.converse_files _ _ _
  have hfresh : ({ s with machine } : Site Facts).freshInode = s.freshInode := by
    rw [freshInode, hfiles]
    rfl
  intro path timeout contact
  unfold start
  rw [Binding.inspect, h, hprobe]
  dsimp only [Listener.start]
  rw [hfiles, hfresh]
  generalize Binding.start s.machine.files s.listener.path s.freshInode _ = outcome
  obtain ⟨result, files⟩ := outcome
  cases result <;> rfl

/-- **A start that finds a socket does what its probe has it do**: it fails and leaves all files as they
are, or the socket is gone and no process id is told. -/
theorem start_of_verdict {s : Site Facts} {inode : Nat}
    (h : s.machine.files.node (Path.ofText s.listener.path) = .ok (.socket inode)) :
    let path := s.listener.path
    let timeout := s.listener.settings.requestTimeout
    let verdict := Binding.judge path (Client.probe path timeout
      (s.machine.converse path (Client.probeRequest timeout)).1)
    (∀ failure, verdict = .error failure →
      s.start.1 = .error failure ∧ s.start.2.machine.files = s.machine.files) ∧
    (verdict = .ok () → ∀ pid, s.start.1 ≠ .error (.control (.alreadyRunning path (some pid)))) ∧
    (s.start.2.machine.files.node (Path.ofText path) ≠ .ok (.socket inode) ↔ verdict = .ok ()) := by
  intro path timeout verdict
  have hstart : (s.start.1, s.start.2.machine.files) = Binding.start s.machine.files path
      s.freshInode (Client.probe path timeout
        (s.machine.converse path (Client.probeRequest timeout)).1) := start_of_socket h
  have hrefused : ∀ failure, verdict = .error failure →
      s.start.1 = .error failure ∧ s.start.2.machine.files = s.machine.files := by
    intro failure hjudge
    rw [Binding.start_of_refused h hjudge, Prod.mk.injEq] at hstart
    exact hstart
  refine ⟨hrefused, fun hjudge => ?untold, ?gone⟩
  case untold =>
    have hpid := Binding.start_of_clear_pid s.freshInode h hjudge
    rw [← hstart] at hpid
    exact hpid
  case gone =>
    cases hjudge : verdict with
    | ok _ =>
      have hgone := Binding.start_of_clear h (freshInode_ne h) hjudge
      rw [← hstart] at hgone
      exact iff_of_true hgone rfl
    | error failure =>
      refine iff_of_false (not_not.2 ?_) (fun h => by cases h)
      rw [(hrefused failure hjudge).2]
      exact h

/-- **A start displaces a peer exactly if the peer leaves without a word.**  Take a start that finds a
socket file at its path, and a connection to the path, whatever becomes of the request.

* If a process takes the connection, the start fails because an instance is running, and leaves all
  files as they are, exactly unless the process leaves without a word, or baffles the probe, while
  there is time for an answer.
* The failure tells a process id exactly if the request can be sent, the octets of the process begin
  with a frame of this one, in whichever pieces they arrive, and there is time for an answer.
* The socket file is gone afterwards exactly if the connection was refused or led nowhere, or the
  process that took it left without a word. -/
theorem start_displaces_exactly {s : Site Facts} {inode : Nat}
    (h : s.machine.files.node (Path.ofText s.listener.path) = .ok (.socket inode)) :
    let path := s.listener.path
    let timeout := s.listener.settings.requestTimeout
    let contact := (s.machine.converse path (Client.probeRequest timeout)).1
    (∀ reply, contact = .ok reply →
      ((∃ pid?, s.start.1 = .error (.control (.alreadyRunning path pid?))) ∧
          s.start.2.machine.files = s.machine.files ↔
        ¬ (timeout.Allows ∧ (reply.Leaves ∨ reply.Baffles))) ∧
      (∀ pid, s.start.1 = .error (.control (.alreadyRunning path (some pid))) ↔
        timeout.Allows ∧ reply.Asked ∧
          ∃ p : Pid, pid = p.val ∧ Frame.Begins reply.bytes (.idResponse p)) ∧
      ∀ pieces : List Bytes, pieces.flatten = reply.bytes →
        (Reader.fresh.run (.begin :: pieces.map .feed)).head?
          = (Frame.front? reply.bytes).map (·.1)) ∧
    (s.start.2.machine.files.node (Path.ofText path) ≠ .ok (.socket inode) ↔
      timeout.isAtMostZero = false ∧
        match contact with
        | .error fault => Client.meansAbsence fault = true
        | .ok reply => timeout.isNotANumber = false ∧ reply.Leaves) := by
  intro path timeout contact
  obtain ⟨hrefused, huntold, hgone⟩ := start_of_verdict h
  refine ⟨fun reply hcontact => ⟨?stays, fun pid => ?told, fun pieces hpieces => ?pieces⟩, ?gone⟩
  case stays =>
    rw [show (s.machine.converse _ _).1 = _ from hcontact] at hrefused hgone
    obtain ⟨hallows, hleaves, hjudge⟩ | ⟨hallows, hbaffles, kind, hjudge⟩ |
        ⟨hstays, pid?, hjudge, _⟩ := Binding.judge_probe_taken path timeout reply
    · refine iff_of_false ?_ (not_not.2 ⟨hallows, .inl hleaves⟩)
      rintro ⟨_, hfiles⟩
      exact hgone.2 hjudge (hfiles ▸ h)
    · refine iff_of_false ?_ (not_not.2 ⟨hallows, .inr hbaffles⟩)
      rintro ⟨⟨pid?, hpid⟩, _⟩
      rw [(hrefused _ hjudge).1] at hpid
      cases hpid
    · exact iff_of_true ⟨⟨pid?, (hrefused _ hjudge).1⟩, (hrefused _ hjudge).2⟩ hstays
  case told =>
    rw [show (s.machine.converse _ _).1 = _ from hcontact] at hrefused huntold
    obtain ⟨_, hleaves, hjudge⟩ | ⟨_, hbaffles, kind, hjudge⟩ | ⟨_, pid?, hjudge, hpid⟩ :=
        Binding.judge_probe_taken path timeout reply
    · exact iff_of_false (huntold hjudge pid) fun hanswer =>
        (Reply.decided hanswer.2.1 hanswer.2.2).1 hleaves
    · refine iff_of_false ?_ fun hanswer =>
        (Reply.decided hanswer.2.1 hanswer.2.2).2 hbaffles
      rw [(hrefused _ hjudge).1]
      simp
    · rw [(hrefused _ hjudge).1, ← hpid]
      constructor
      · intro hsame
        injection hsame with hsame
        injection hsame with hsame
        injection hsame
      · rintro rfl
        rfl
  case pieces => rw [Reader.head?_run_pieces, hpieces]
  case gone =>
    refine hgone.trans ?_
    cases hcontact : contact with
    | error fault =>
      rw [show (s.machine.converse _ _).1 = _ from hcontact]
      exact Binding.judge_probe_refused path timeout fault
    | ok reply =>
      rw [show (s.machine.converse _ _).1 = _ from hcontact]
      obtain ⟨hallows, hleaves, hjudge⟩ | ⟨_, hbaffles, kind, hjudge⟩ |
          ⟨hstays, pid?, hjudge, _⟩ := Binding.judge_probe_taken path timeout reply
      · exact iff_of_true hjudge ⟨hallows.1, hallows.2, hleaves⟩
      · refine iff_of_false (fun hok => ?_) fun hgo => Reply.not_leaves_of_baffles hbaffles hgo.2.2
        rw [show Binding.judge _ _ = _ from hjudge] at hok
        cases hok
      · refine iff_of_false (fun hok => ?_) fun hgo => hstays ⟨⟨hgo.1, hgo.2.1⟩, .inl hgo.2.2⟩
        rw [show Binding.judge _ _ = _ from hjudge] at hok
        cases hok

/-- A listener that is not started yet, at whose path another process takes one connection. -/
def contested (reply : Reply) : Site Unit where
  machine :=
    { files := { entries := [(⟨false, ["ctl.sock"]⟩, .socket 7)] }
      peers := [{ inode := 7, replies := [reply] }] }
  listener :=
    { path := "ctl.sock"
      settings := { pid := 4242, requestTimeout := .whole 2, closeTimeout := .ofInt 1 }
      facts := () }
  address := "ctl.sock"

/-- The octets of a process id that is told to a probe. -/
def toldPid : Bytes := ((Frame.encode (.idResponse 77)).toOption).getD []

/-- A start behind a process that tells its id fails with this id and leaves its socket, even if the
process breaks off in the next frame. -/
theorem answering_peer_stays :
    let s := contested { bytes := toldPid ++ [1, 2, 3] }
    s.start.1 = .error (.control (.alreadyRunning "ctl.sock" (some 77))) ∧
      s.start.2.machine.files = s.machine.files := by
  have hnode : (contested { bytes := toldPid ++ [1, 2, 3] }).machine.files.node
      (Path.ofText "ctl.sock") = .ok (.socket 7) := by decide
  have hexact := (start_displaces_exactly (s := contested { bytes := toldPid ++ [1, 2, 3] })
    hnode).1 _ rfl
  have hbegins : Frame.Begins (toldPid ++ [1, 2, 3]) (.idResponse 77) :=
    ⟨toldPid, [1, 2, 3], rfl, Frame.decode_encode (m := .idResponse 77) rfl⟩
  have hasked : Reply.Asked { bytes := toldPid ++ [1, 2, 3] } := Reply.asked_of_taken rfl
  obtain ⟨hstays, hplain⟩ := Reply.decided hasked ⟨77, rfl, hbegins⟩
  exact ⟨(hexact.2.1 77).2 ⟨by decide, hasked, 77, rfl, hbegins⟩,
    (hexact.1.2 fun h => h.2.elim hstays hplain).2⟩

/-- A process that takes the connection and hangs up without an answer still runs, and its socket is
gone: another one lies at the path, and the start was not refused. -/
theorem silent_leaver_displaced :
    let s := contested { manner := .hangsUp }
    (s.machine.converse "ctl.sock" [.idRequest]).1 = .ok { manner := .hangsUp } ∧
      s.start.1 = .ok () ∧
      s.machine.files.node (Path.ofText "ctl.sock") = .ok (.socket 7) ∧
      s.start.2.machine.files.node (Path.ofText "ctl.sock") = .ok (.socket 8) := by
  decide

end Site

end ControlChannel
