import ControlChannel.Proofs.FrameReading
import Mathlib.Data.List.Forall2

/-!
# Reads of a stream, however its octets arrive

Octets may arrive in any pieces, and reads may begin before, between or after them.  What the reads
give is decided by the octets alone: each takes the first frame that no read took before it.

* `Frame.Cut`, `Frame.Encoded` — results that are cut off octets frame by frame, and messages with
  their frames;
* `Reader.fresh`, `Reader.after`, `Reader.fed`, `Reader.started` — the state at first and after a run
  of events, the octets that it feeds, and how many reads it starts;
* `Reader.Stands` — a stream that has not ended, **where a read that waits has not got its last
  octet yet**;
* `Reader.step_stands`, `Reader.run_stands` — one event, and a run of them, for arbitrary octets;
* `Frame.Encoded.of_cut` — what is cut off a beginning of frames is their messages;
* `Reader.reads_messages` — **reads give the messages of the frames that arrive, in order, each as
  soon as its last octet is there**.
-/

namespace ControlChannel

/-! ### Cutting frames off octets -/

namespace Frame

/-- The results of reading frame after frame off octets, and the octets that are left. -/
inductive Cut [Json.Depth] : Bytes → List Reader.Result → Bytes → Prop
  | nothing (bytes : Bytes) : Cut bytes [] bytes
  | frame {bytes middle rest : Bytes} {result : Reader.Result} {results : List Reader.Result}
      (first : front? bytes = some (result, middle)) (later : Cut middle results rest) :
      Cut bytes (result :: results) rest

/-- The first frame of octets that begin with an encoded message. -/
theorem front?_encode [Json.Depth] {m : Message} {frame : Bytes} (h : encode m = .ok frame)
    (rest : Bytes) :
    front? (frame ++ rest) = some (.ok m, rest) := front?_of_decode (decode_encode h) rest

/-- Messages and their frames, one for each. -/
def Encoded (messages : List Message) (frames : List Bytes) : Prop :=
  List.Forall₂ (fun m frame => encode m = .ok frame) messages frames

/-- Later messages have the later frames. -/
theorem Encoded.drop {messages : List Message} {frames : List Bytes} (h : Encoded messages frames)
    (n : Nat) : Encoded (messages.drop n) (frames.drop n) := List.forall₂_drop n h

/-- **What is cut off a beginning of frames is their messages, in order**, and what is left is the
beginning of the frames behind them. -/
theorem Encoded.of_cut [Json.Depth] {messages : List Message} {frames : List Bytes}
    (h : Encoded messages frames) {bytes rest later : Bytes} {results : List Reader.Result}
    (hbytes : bytes ++ later = frames.flatten) (cut : Cut bytes results rest) :
    results = (messages.take results.length).map .ok ∧ results.length ≤ messages.length ∧
      bytes = (frames.take results.length).flatten ++ rest := by
  induction cut generalizing messages frames with
  | nothing bytes => exact ⟨rfl, Nat.zero_le _, rfl⟩
  | @frame bytes middle rest result results first cut ih =>
    cases h with
    | nil =>
      obtain rfl : bytes = [] := (List.append_eq_nil_iff.1 hbytes).1
      cases first
    | @cons m frame messages frames hframe hframes =>
      have hwhole : front? (bytes ++ later) = some (.ok m, frames.flatten) := by
        rw [hbytes, List.flatten_cons]
        exact front?_encode hframe _
      rw [front?_append first later, Option.some.injEq, Prod.mk.injEq] at hwhole
      obtain ⟨rfl, hmiddle⟩ := hwhole
      obtain ⟨hresults, hlength, hrest⟩ := ih hframes hmiddle
      have hfront : bytes = frame ++ middle := by
        rw [List.flatten_cons, ← hmiddle, ← List.append_assoc] at hbytes
        exact List.append_cancel_right hbytes
      refine ⟨?_, Nat.succ_le_succ hlength, ?_⟩
      · rw [List.length_cons, List.take_succ_cons, List.map_cons, ← hresults]
      · rw [List.length_cons, List.take_succ_cons, List.flatten_cons, List.append_assoc, ← hrest,
          hfront]

/-- Octets that hold no whole frame, and begin frames of which there is one, are shorter than it. -/
theorem Encoded.length_lt [Json.Depth] {messages : List Message} {frames : List Bytes}
    (h : Encoded messages frames) {bytes later : Bytes} (hbytes : bytes ++ later = frames.flatten)
    (hundecided : front? bytes = none) (hmore : messages ≠ []) :
    bytes.length < (frames.take 1).flatten.length := by
  cases h with
  | nil => exact absurd rfl hmore
  | @cons m frame messages frames hframe hframes =>
    rw [List.take_succ_cons, List.take_zero, List.flatten_singleton]
    by_contra hlong
    have hprefix : frame <+: bytes := by
      refine List.prefix_of_prefix_length_le ⟨frames.flatten, rfl⟩ ⟨later, ?_⟩ (Nat.le_of_not_lt hlong)
      rw [hbytes, List.flatten_cons]
    obtain ⟨rest, rfl⟩ := hprefix
    rw [front?_encode hframe] at hundecided
    cases hundecided

end Frame

namespace Reader

/-! ### Runs of events -/

/-- A stream of which nothing has arrived and nothing is read. -/
def fresh : Reader := {}

/-- The state after a run of events. -/
def after [Json.Depth] (r : Reader) : List Event → Reader
  | [] => r
  | event :: events => after (r.step event).2 events

/-- The octets that an event feeds. -/
def Event.octets : Event → Bytes
  | .feed bytes => bytes
  | _ => []

/-- The octets that a run of events feeds. -/
def fed (events : List Event) : Bytes := events.flatMap Event.octets

/-- Whether a read is under way. -/
def reading (r : Reader) : Bool := r.phase.isSome

/-- Whether a read is under way once an event has begun. -/
def wants (r : Reader) (event : Event) : Bool := r.reading || event = .begin

/-- How many reads a run of events starts; none begins while another one is under way. -/
def started [Json.Depth] (r : Reader) : List Event → Nat
  | [] => 0
  | event :: events =>
    (r.wants event && ! r.reading).toNat + started (r.step event).2 events

theorem run_cons [Json.Depth] (r : Reader) (event : Event) (events : List Event) :
    r.run (event :: events) = (r.step event).1.toList ++ (r.step event).2.run events := rfl

theorem started_cons [Json.Depth] (r : Reader) (event : Event) (events : List Event) :
    r.started (event :: events) + r.reading.toNat
      = (r.wants event).toNat + (r.step event).2.started events := by
  show (r.wants event && ! r.reading).toNat + (r.step event).2.started events + _ = _
  unfold wants
  cases r.reading with
  | true => simp [Nat.add_comm]
  | false => simp

theorem run_append [Json.Depth] (r : Reader) (events later : List Event) :
    r.run (events ++ later) = r.run events ++ (r.after events).run later := by
  induction events generalizing r with
  | nil => rfl
  | cons event events ih =>
    rw [List.cons_append, run_cons, ih, ← List.append_assoc]
    rfl

theorem started_append [Json.Depth] (r : Reader) (events later : List Event) :
    r.started (events ++ later) = r.started events + (r.after events).started later := by
  induction events generalizing r with
  | nil => exact (Nat.zero_add _).symm
  | cons event events ih =>
    show _ + started (r.step event).2 (events ++ later) = _
    rw [ih, ← Nat.add_assoc]
    rfl

theorem after_append [Json.Depth] (r : Reader) (events later : List Event) :
    r.after (events ++ later) = (r.after events).after later := by
  induction events generalizing r with
  | nil => rfl
  | cons event events ih => exact ih (r.step event).2

/-! ### The octets that no finished read took -/

/-- The octets that no finished read took are those of the buffer, and in front of them the header
that the read under way has taken already. -/
def Unread (r : Reader) (bytes : Bytes) : Prop :=
  match r.phase with
  | some (.body size) =>
    ∃ head, bytes = head ++ r.buffer ∧ head.length = Frame.headerSize ∧
      Frame.lengthOf head = .ok size
  | _ => bytes = r.buffer

/-- A stream that has not ended, and the octets that no finished read took.  A read that is under
way waits because they are no whole frame. -/
structure Stands [Json.Depth] (r : Reader) (bytes : Bytes) : Prop where
  opened : r.ended = false
  unread : r.Unread bytes
  waits : r.reading = true → Frame.front? bytes = none

theorem Unread.feed {r : Reader} {bytes : Bytes} (h : r.Unread bytes) (extra : Bytes) :
    Unread { r with buffer := r.buffer ++ extra } (bytes ++ extra) := by
  unfold Unread at h ⊢
  cases hphase : r.phase with
  | none =>
    rw [hphase] at h
    exact congrArg (· ++ extra) h
  | some phase =>
    rw [hphase] at h
    cases phase with
    | header => exact congrArg (· ++ extra) h
    | body size =>
      obtain ⟨head, rfl, hhead, hsize⟩ := h
      exact ⟨head, List.append_assoc _ _ _, hhead, hsize⟩

/-- What the octets decide where a header was taken off them. -/
theorem front?_of_header [Json.Depth] {head rest : Bytes} {size : Nat}
    (hhead : head.length = Frame.headerSize)
    (hsize : Frame.lengthOf head = .ok size) :
    Frame.front? (head ++ rest) =
      (split? size rest).map fun parted =>
        ((Frame.messageOf parted.1).mapError .payload, parted.2) := by
  have hsplit : split? Frame.headerSize (head ++ rest) = some (head, rest) :=
    split?_eq_some_iff.2 ⟨rfl, hhead⟩
  unfold Frame.front?
  simp only [hsplit, hsize]
  cases split? size rest <;> rfl

/-- A read under way takes the first frame of the octets, if they have one. -/
theorem advance_of_front? [Json.Depth] {r : Reader} {bytes rest : Bytes} {result : Result}
    (hreading : r.reading = true) (hunread : r.Unread bytes)
    (h : Frame.front? bytes = some (result, rest)) :
    r.advance = (some result, { r with buffer := rest, phase := none }) := by
  unfold Unread at hunread
  unfold advance
  cases hphase : r.phase with
  | none =>
    rw [reading, hphase] at hreading
    cases hreading
  | some phase =>
    rw [hphase] at hunread
    cases phase with
    | header =>
      subst hunread
      exact advanceHeader_of_front? h
    | body size =>
      obtain ⟨head, rfl, hhead, hsize⟩ := hunread
      rw [front?_of_header hhead hsize] at h
      obtain ⟨⟨body, last⟩, hbody, hparted⟩ := Option.map_eq_some_iff.1 h
      cases hparted
      show r.advanceBody size = _
      simp only [advanceBody, hbody]

/-- A read under way waits on while the octets have no whole frame and more may come. -/
theorem advance_of_undecided [Json.Depth] {r : Reader} {bytes : Bytes} (hopened : r.ended = false)
    (hreading : r.reading = true) (hunread : r.Unread bytes) (h : Frame.front? bytes = none) :
    ∃ r', r.advance = (none, r') ∧ r'.reading = true ∧ r'.Stands bytes := by
  have hbody : ∀ {head buffer : Bytes} {size : Nat}, head.length = Frame.headerSize →
      Frame.lengthOf head = .ok size → bytes = head ++ buffer →
      advanceBody { r with buffer } size
          = (none, { r with buffer, phase := some (.body size) }) ∧
        Stands { r with buffer, phase := some (.body size) } bytes := by
    intro head buffer size hhead hsize hbytes
    have hshort := h
    rw [hbytes, front?_of_header hhead hsize, Option.map_eq_none_iff] at hshort
    refine ⟨?_, hopened, ⟨head, hbytes, hhead, hsize⟩, fun _ => h⟩
    simp [advanceBody, hshort, hopened]
  unfold Unread at hunread
  unfold advance
  cases hphase : r.phase with
  | none =>
    rw [reading, hphase] at hreading
    cases hreading
  | some phase =>
    rw [hphase] at hunread
    cases phase with
    | body size =>
      obtain ⟨head, hbytes, hhead, hsize⟩ := hunread
      obtain ⟨hadvance, hstands⟩ := hbody hhead hsize hbytes
      exact ⟨_, hadvance, rfl, hstands⟩
    | header =>
      subst hunread
      show ∃ r', r.advanceHeader = (none, r') ∧ _
      cases hhead : split? Frame.headerSize r.buffer with
      | none =>
        refine ⟨{ r with phase := some .header }, ?_, rfl, hopened, rfl, fun _ => h⟩
        simp [advanceHeader, hhead, hopened]
      | some parted =>
        obtain ⟨head, later⟩ := parted
        obtain ⟨hbuffer, hlength⟩ := split?_eq_some_iff.1 hhead
        cases hsize : Frame.lengthOf head with
        | error fault =>
          simp [Frame.front?, hhead, hsize] at h
        | ok size =>
          obtain ⟨hadvance, hstands⟩ := hbody hlength hsize hbuffer
          refine ⟨_, ?_, rfl, hstands⟩
          simp only [advanceHeader, hhead, hsize, hadvance]

/-- The octets decide how a read under way goes on: it takes their first frame, or it waits. -/
theorem advance_stands [Json.Depth] {r : Reader} {bytes : Bytes} (hopened : r.ended = false)
    (hreading : r.reading = true) (hunread : r.Unread bytes) :
    (∃ result r' rest, r.advance = (some result, r') ∧ Frame.front? bytes = some (result, rest) ∧
        r'.reading = false ∧ r'.Stands rest) ∨
      ∃ r', r.advance = (none, r') ∧ r'.reading = true ∧ r'.Stands bytes := by
  cases hfront : Frame.front? bytes with
  | none => exact .inr (advance_of_undecided hopened hreading hunread hfront)
  | some outcome =>
    obtain ⟨result, rest⟩ := outcome
    refine .inl ⟨result, _, rest, advance_of_front? hreading hunread hfront, rfl, rfl, hopened,
      rfl, ?_⟩
    intro hread
    cases hread

/-! ### Events before the end -/

/-- **One event before the end.**  It adds its octets to those that no finished read took; then a
read that is under way takes their first frame, or nothing is taken. -/
theorem step_stands [Json.Depth] {r : Reader} {bytes : Bytes} (stands : r.Stands bytes)
    {event : Event}
    (hopen : event ≠ .finish) :
    (∃ result r' rest, r.step event = (some result, r') ∧
        Frame.front? (bytes ++ event.octets) = some (result, rest) ∧
        r.wants event = true ∧ r'.reading = false ∧ r'.Stands rest) ∨
      ∃ r', r.step event = (none, r') ∧ r'.reading = r.wants event ∧
        r'.Stands (bytes ++ event.octets) := by
  obtain ⟨hopened, hunread, hwaits⟩ := stands
  cases event with
  | finish => exact absurd rfl hopen
  | feed octets =>
    have hfed := hunread.feed octets
    have hwants : r.wants (.feed octets) = r.reading := by simp [wants]
    rw [hwants]
    cases hreading : r.reading with
    | false =>
      have hidle : r.phase = none := by simpa [reading] using hreading
      refine .inr ⟨{ r with buffer := r.buffer ++ octets }, ?_, hreading, hopened, hfed, ?_⟩
      · simp [step, feed, advance, hidle]
      · simp [reading, hidle]
    | true =>
      obtain ⟨result, r', rest, hadvance, hfront, hread, hstands⟩ | ⟨r', hadvance, hread, hstands⟩ :=
        advance_stands (r := { r with buffer := r.buffer ++ octets }) hopened hreading hfed
      · exact .inl ⟨result, r', rest, hadvance, hfront, rfl, hread, hstands⟩
      · exact .inr ⟨r', hadvance, hread, hstands⟩
  | begin =>
    have hwants : r.wants .begin = true := by simp [wants]
    rw [hwants, show Event.octets .begin = [] from rfl, List.append_nil]
    cases hphase : r.phase with
    | some phase =>
      refine .inr ⟨r, ?_, ?_, hopened, hunread, hwaits⟩
      · simp [step, begin, hphase]
      · simp [reading, hphase]
    | none =>
      have hbegun : Unread { r with phase := some .header } bytes := by
        simpa [Unread, hphase] using hunread
      have hbegin : r.step .begin = ({ r with phase := some .header } : Reader).advance := by
        simp [step, begin, hphase]
      rw [hbegin]
      obtain ⟨result, r', rest, hadvance, hfront, hread, hstands⟩ | ⟨r', hadvance, hread, hstands⟩ :=
        advance_stands (r := { r with phase := some .header }) hopened rfl hbegun
      · exact .inl ⟨result, r', rest, hadvance, hfront, rfl, hread, hstands⟩
      · exact .inr ⟨r', hadvance, hread, hstands⟩

/-- **A run of events before the end cuts its results off the octets that arrive**, and each read
that it starts gives a result or is still under way. -/
theorem run_stands [Json.Depth] {r : Reader} {bytes : Bytes} (stands : r.Stands bytes)
    {events : List Event}
    (hopen : .finish ∉ events) :
    ∃ rest, Frame.Cut (bytes ++ fed events) (r.run events) rest ∧ (r.after events).Stands rest ∧
      r.started events + r.reading.toNat
        = (r.run events).length + (r.after events).reading.toNat := by
  induction events generalizing r bytes with
  | nil =>
    refine ⟨bytes, ?_, stands, rfl⟩
    rw [show bytes ++ fed [] = bytes from List.append_nil bytes]
    exact .nothing bytes
  | cons event events ih =>
    rw [List.mem_cons, not_or] at hopen
    obtain ⟨hevent, hlater⟩ := hopen
    have hfed : bytes ++ fed (event :: events) = bytes ++ event.octets ++ fed events := by
      simp [fed]
    rw [hfed, run_cons, started_cons]
    show ∃ rest, _ ∧ ((r.step event).2.after events).Stands rest ∧
      _ = _ + ((r.step event).2.after events).reading.toNat
    obtain ⟨result, r', last, hstep, hfront, hwants, hidle, hstands⟩ | ⟨r', hstep, hwants, hstands⟩ :=
      step_stands stands (Ne.symm hevent)
    · obtain ⟨rest, hcut, hafter, hcount⟩ := ih hstands hlater
      rw [hstep, hwants]
      refine ⟨rest, .frame (Frame.front?_append hfront _) hcut, hafter, ?_⟩
      simp only [hidle, Bool.toNat_false, Bool.toNat_true, Option.toList_some, List.singleton_append,
        List.length_cons] at hcount ⊢
      omega
    · obtain ⟨rest, hcut, hafter, hcount⟩ := ih hstands hlater
      rw [hstep, ← hwants, Nat.add_comm]
      exact ⟨rest, hcut, hafter, hcount⟩

/-- A run of events on a fresh stream, before the end. -/
theorem run_fresh [Json.Depth] {events : List Event} (hopen : .finish ∉ events) :
    ∃ rest, Frame.Cut (fed events) (fresh.run events) rest ∧ (fresh.after events).Stands rest ∧
      fresh.started events
        = (fresh.run events).length + (fresh.after events).reading.toNat := by
  have hfresh : fresh.Stands [] := ⟨rfl, rfl, fun _ => rfl⟩
  exact run_stands hfresh hopen

/-- The first read that begins gives what the first frame decides, as soon as that is there. -/
theorem head?_run [Json.Depth] {events : List Event} (hopen : .finish ∉ events)
    (hstarted : fresh.started events ≠ 0) :
    (fresh.run events).head? = (Frame.front? (fed events)).map (·.1) := by
  obtain ⟨rest, hcut, hstands, hcount⟩ := run_fresh hopen
  generalize fresh.run events = results at hcut hcount
  cases hcut with
  | nothing =>
    -- nothing was given, so that the read that began first is still under way
    have hreading : (fresh.after events).reading = true := by
      cases hidle : (fresh.after events).reading with
      | true => rfl
      | false =>
        rw [hidle] at hcount
        exact absurd hcount hstarted
    rw [hstands.waits hreading]
    rfl
  | frame first later =>
    rw [first]
    rfl

/-! ### The end, and reads behind it -/

/-- What `n` reads give: the messages in order, and beyond them that the stream is closed. -/
def results (messages : List Message) (n : Nat) : List Result :=
  (messages.take n).map .ok ++ List.replicate (n - messages.length) (.error .closed)

/-- Reads of a stream that has ended give the messages of the frames that are left, and then that
it is closed. -/
theorem run_ended [Json.Depth] {messages : List Message} {frames : List Bytes}
    (h : Frame.Encoded messages frames) (n : Nat) :
    let r : Reader := { buffer := frames.flatten, ended := true }
    r.run (List.replicate n .begin) = results messages n ∧
      r.started (List.replicate n .begin) = n := by
  induction n generalizing messages frames with
  | zero => exact ⟨by simp [results, run], rfl⟩
  | succ n ih =>
    intro r
    rw [List.replicate_succ, run_cons]
    have hstarted := started_cons r .begin (List.replicate n .begin)
    rw [show r.reading.toNat = 0 from rfl, show (r.wants .begin).toNat = 1 from rfl] at hstarted
    cases h with
    | nil =>
      obtain ⟨hrun, hcount⟩ := ih (.nil : Frame.Encoded [] [])
      have hstep : r.step .begin = (some (.error .closed), r) := rfl
      rw [hstep] at hstarted ⊢
      rw [show Reader.started _ _ = n from hcount] at hstarted
      refine ⟨?_, by omega⟩
      rw [show Reader.run r _ = _ from hrun]
      simp [results, List.replicate_succ]
    | @cons m frame messages frames hframe hframes =>
      obtain ⟨hrun, hcount⟩ := ih hframes
      have hstep : r.step .begin
          = (some (.ok m), { buffer := frames.flatten, ended := true }) :=
        advanceHeader_of_front? (r := { r with phase := some .header })
          (Frame.front?_encode hframe frames.flatten)
      rw [hstep] at hstarted ⊢
      rw [show Reader.started _ _ = n from hcount] at hstarted
      refine ⟨?_, by omega⟩
      rw [show Reader.run _ _ = _ from hrun]
      simp [results]

/-- **The end of a stream** whose frames were all read but these: a read that is under way waits for
none of them, and is told that the stream is closed. -/
theorem finish_stands [Json.Depth] {r : Reader} {messages : List Message} {frames : List Bytes}
    (h : Frame.Encoded messages frames) (stands : r.Stands frames.flatten) :
    r.step .finish = (if r.reading then some (.error .closed) else none,
        { buffer := frames.flatten, ended := true }) ∧
      (r.reading = true → messages = []) := by
  obtain ⟨hopened, hunread, hwaits⟩ := stands
  obtain ⟨buffer, ended, phase⟩ := r
  cases phase with
  | none =>
    obtain rfl : frames.flatten = buffer := hunread
    exact ⟨rfl, fun hread => by cases hread⟩
  | some phase =>
    have hundecided := hwaits rfl
    cases h with
    | cons hframe hframes =>
      rw [List.flatten_cons, Frame.front?_encode hframe] at hundecided
      cases hundecided
    | nil =>
      refine ⟨?_, fun _ => rfl⟩
      cases phase with
      | header =>
        obtain rfl : [] = buffer := hunread
        rfl
      | body size =>
        -- a header was taken, so that some octets are unread
        obtain ⟨head, hempty, hhead, _⟩ := hunread
        obtain ⟨rfl, _⟩ := List.append_eq_nil_iff.1 hempty.symm
        cases hhead

/-! ### Messages -/

/-- What `n` reads give of messages splits where some of them are done. -/
theorem results_add (messages : List Message) {n : Nat} (hn : n ≤ messages.length) (more : Nat) :
    results messages (n + more)
      = (messages.take n).map .ok ++ results (messages.drop n) more := by
  unfold results
  rw [List.take_add, List.map_append, List.append_assoc, List.length_drop,
    show n + more - messages.length = more - (messages.length - n) from by omega]

/-- **What reads of a beginning of frames have come to**: with as many frames taken as results were
given, the rest of the octets stands unread. -/
theorem run_frames [Json.Depth] {messages : List Message} {frames : List Bytes}
    (hframes : Frame.Encoded messages frames) {seen : List Event} (hopen : .finish ∉ seen)
    {later : Bytes} (hfed : fed seen ++ later = frames.flatten) :
    let given := (fresh.run seen).length
    ∃ rest, (fresh.after seen).Stands rest ∧ rest ++ later = (frames.drop given).flatten ∧
      fed seen = (frames.take given).flatten ++ rest ∧
      fresh.started seen = given + (fresh.after seen).reading.toNat ∧
      fresh.run seen = (messages.take given).map .ok ∧ given ≤ messages.length := by
  intro given
  obtain ⟨rest, hcut, hstands, hcount⟩ := run_fresh hopen
  obtain ⟨hrun, hlength, hrest⟩ := hframes.of_cut hfed hcut
  refine ⟨rest, hstands, ?_, hrest, hcount, hrun, hlength⟩
  rw [hrest, List.append_assoc, ← List.take_append_drop given frames,
    List.flatten_append] at hfed
  simpa [given] using hfed

/-- **Reads give the messages of the frames that arrive, in order**, in whatever pieces their octets
come and whenever the reads begin; beyond them they are told that the stream is closed.

* Each read that was started gives one result by the end.
* Up to any moment before the end, each read that was started has given its message or is still
  under way.
* The frames of the messages that were given have all arrived by then: no read ends before its last
  octet is there.
* The frame that a read under way waits for has not: no read waits for longer. -/
theorem reads_messages [Json.Depth] {messages : List Message} {frames : List Bytes}
    (hframes : Frame.Encoded messages frames) {script : List Event} (hopen : .finish ∉ script)
    (hfed : fed script = frames.flatten) (extra : Nat) :
    let events := script ++ .finish :: List.replicate extra .begin
    (fresh.run events = results messages (fresh.started events) ∧ extra ≤ fresh.started events) ∧
    ∀ seen later, script = seen ++ later →
      let given := (fresh.run seen).length
      let arrived := (fed seen).length
      given ≤ messages.length ∧
      fresh.started seen = given + (fresh.after seen).reading.toNat ∧
      fresh.run seen = results messages given ∧
      (frames.take given).flatten.length ≤ arrived ∧
      ((fresh.after seen).reading = true → given < messages.length →
        arrived < (frames.take (given + 1)).flatten.length) := by
  intro events
  refine ⟨?whole, ?moments⟩
  case moments =>
    intro seen later hscript given arrived
    have hseen : .finish ∉ seen := fun hmem => hopen (hscript ▸ List.mem_append_left later hmem)
    have hbytes : fed seen ++ fed later = frames.flatten := by
      rw [← hfed, hscript]
      simp [fed]
    obtain ⟨rest, hstands, hleft, hrest, hcount, hrun, hlength⟩ := run_frames hframes hseen hbytes
    have harrived : arrived = (frames.take given).flatten.length + rest.length := by
      rw [← List.length_append, ← hrest]
    refine ⟨hlength, hcount, ?_, by omega, ?_⟩
    · rw [results, Nat.sub_eq_zero_of_le hlength, List.replicate_zero, List.append_nil]
      exact hrun
    · intro hread hmore
      have hshort := (hframes.drop given).length_lt hleft (hstands.waits hread)
        (by simpa using hmore)
      rw [harrived, List.take_add, List.flatten_append, List.length_append]
      omega
  case whole =>
    have hbytes : fed script ++ [] = frames.flatten := by rw [hfed, List.append_nil]
    obtain ⟨rest, hstands, hleft, _, hcount, hrun, hlength⟩ := run_frames hframes hopen hbytes
    rw [List.append_nil] at hleft
    subst hleft
    obtain ⟨hfinish, hnone⟩ := finish_stands (hframes.drop _) hstands
    obtain ⟨hended, hmore⟩ := run_ended (hframes.drop (fresh.run script).length) extra
    have hwants : (fresh.after script).wants .finish = (fresh.after script).reading := by simp [wants]
    have hafter := started_cons (fresh.after script) .finish (List.replicate extra .begin)
    rw [hfinish, hwants, Nat.add_comm, Nat.add_left_cancel_iff] at hafter
    have hstarted : fresh.started events
        = (fresh.run script).length + ((fresh.after script).reading.toNat + extra) := by
      rw [started_append, hcount, hafter, show Reader.started _ _ = extra from hmore, Nat.add_assoc]
    refine ⟨?_, by omega⟩
    rw [run_append, run_cons, hfinish, show Reader.run _ _ = _ from hended, hstarted,
      results_add messages hlength, ← hrun]
    cases hread : (fresh.after script).reading with
    | false => simp
    | true =>
      rw [hnone hread]
      simp [results, Nat.add_comm 1, List.replicate_succ]

/-- A read that begins before anything arrives, with cuts in a header and in a character, and two
more reads: the first two give the messages, the third is told that the stream is closed. -/
theorem cut_frames_read :
    let frames := ([.packet [0xE4], .closeSocket] : List Message).map fun m =>
      ((Frame.encode m).toOption).getD []
    let bytes := frames.flatten
    fresh.run [.begin, .feed (bytes.take 3), .feed [], .feed ((bytes.drop 3).take 34),
        .feed (bytes.drop 37), .begin, .finish, .begin]
      = [.ok (.packet [0xE4]), .ok .closeSocket, .error .closed] := by
  intro frames bytes
  have hframes : Frame.Encoded [.packet [0xE4], .closeSocket] frames :=
    .cons rfl (.cons rfl .nil)
  have hopen : .finish ∉ ([.begin, .feed (bytes.take 3), .feed [], .feed ((bytes.drop 3).take 34),
      .feed (bytes.drop 37), .begin] : List Event) := by simp
  have hread := (reads_messages hframes hopen (by decide) 1).1.1
  rw [show fresh.started _ = 3 by decide] at hread
  exact hread

end Reader

end ControlChannel
