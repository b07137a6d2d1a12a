import ControlChannel.Proofs.ReadSchedule

/-!
# Reads of a stream agree with decoding

A stream may carry any octets, in any pieces.  What its reads give is decided by the octets alone: each
read takes a part off what those before it left, and gives what decoding this part gives.

* `Frame.Whole` — octets that a read takes whatever follows them;
* `Frame.Takes`, `Frame.Trail` — the part that one read takes off octets that end, and the parts that
  reads take one after the other;
* `Frame.takes_iff_first` — there is exactly one such part, and reading finds it;
* `Reader.advance_of_ended`, `Reader.begins_trail` — a read under way when the stream ends, and reads
  that begin later;
* `Reader.run_trail`, `Reader.run_cut` — **reads of a stream that ends cut its octets from the left**;
* `Reader.reads_as_decoded` — so they do for any octets, pieces and reads, also behind a failure.
-/

namespace ControlChannel

namespace Frame

/-! ### What one read takes -/

/-- Octets that a read takes as soon as they are there, whatever follows them, and what it gives. -/
inductive Whole [Json.Depth] : Bytes → Reader.Result → Prop
  /-- A header beyond the limit: it is taken alone. -/
  | beyond {head : Bytes} (full : head.length = headerSize) (large : mostBytes < declared head) :
      Whole head (.error (.payload (.protocol (.tooLarge (declared head)))))
  /-- A header and the body that it declares: they are decoded. -/
  | carried {head body : Bytes} (full : head.length = headerSize)
      (small : declared head ≤ mostBytes) (carried : body.length = declared head) :
      Whole (head ++ body) ((decode (head ++ body)).mapError .payload)

/-- What one read gives of octets that end, and what it leaves of them. -/
inductive Takes [Json.Depth] : Bytes → Reader.Result → Bytes → Prop
  /-- Nothing is there: the stream is closed. -/
  | nothing : Takes [] (.error .closed) []
  /-- Fewer octets than a header has: they are all taken, and the frame is truncated. -/
  | shortHeader {octets : Bytes} (some : octets ≠ []) (short : octets.length < headerSize) :
      Takes octets (.error (.payload (.protocol (.truncatedHeader octets.length)))) []
  /-- A body cut short: all octets are taken, and the frame is truncated. -/
  | shortBody {head octets : Bytes} (full : head.length = headerSize)
      (small : declared head ≤ mostBytes) (short : octets.length < declared head) :
      Takes (head ++ octets)
        (.error (.payload (.protocol (.truncatedBody octets.length (declared head))))) []
  /-- A whole frame, or a header beyond the limit: this is taken, and nothing behind it. -/
  | whole {frame rest : Bytes} {result : Reader.Result} (whole : Whole frame result) :
      Takes (frame ++ rest) result rest

/-- The results of reads one after the other, and what the last of them leaves. -/
inductive Trail [Json.Depth] : Bytes → List Reader.Result → Bytes → Prop
  | nothing (octets : Bytes) : Trail octets [] octets
  | read {octets middle rest : Bytes} {result : Reader.Result} {results : List Reader.Result}
      (first : Takes octets result middle) (later : Trail middle results rest) :
      Trail octets (result :: results) rest

theorem lengthOf_of_small {head : Bytes} (small : declared head ≤ mostBytes) :
    lengthOf head = .ok (declared head) := if_neg (Nat.not_lt.2 small)

theorem lengthOf_of_large {head : Bytes} (large : mostBytes < declared head) :
    lengthOf head = .error (.tooLarge (declared head)) := if_pos large

/-- Decoding a header with the body that it declares is reading the body. -/
theorem decode_append [Json.Depth] {head body : Bytes} (full : head.length = headerSize)
    (small : declared head ≤ mostBytes) (carried : body.length = declared head) :
    decode (head ++ body) = messageOf body := by
  unfold decode
  dsimp only
  rw [List.take_left' full, List.drop_left' full, if_neg (by omega), lengthOf_of_small small]
  exact if_pos carried

/-- Octets that are no shorter than a header are one with what follows it. -/
theorem first_eq [Json.Depth] {head rest : Bytes} (hhead : head.length = headerSize) :
    first (head ++ rest) =
      match lengthOf head with
      | .error fault => (.error (.payload (.protocol fault)), rest)
      | .ok size =>
        if rest.length < size then
          (.error (.payload (.protocol (.truncatedBody rest.length size))), [])
        else ((messageOf (rest.take size)).mapError .payload, rest.drop size) := by
  have hfilled : (head ++ rest).isEmpty = false := by
    cases head with
    | nil => cases hhead
    | cons octet octets => rfl
  unfold first
  dsimp only
  cases hsize : lengthOf head with
  | error fault =>
    rw [List.take_left' hhead, List.drop_left' hhead, hfilled, if_neg Bool.false_ne_true,
      if_neg (by omega), hsize]
  | ok size =>
    rw [List.take_left' hhead, List.drop_left' hhead, hfilled, if_neg Bool.false_ne_true,
      if_neg (by omega), hsize]

/-- Reading octets that end, from behind a header on. -/
theorem first_of_header [Json.Depth] {head rest : Bytes} {size : Nat}
    (hhead : head.length = headerSize)
    (hsize : lengthOf head = .ok size) :
    first (head ++ rest) =
      if rest.length < size then
        (.error (.payload (.protocol (.truncatedBody rest.length size))), [])
      else ((messageOf (rest.take size)).mapError .payload, rest.drop size) := by
  rw [first_eq hhead, hsize]

/-- Octets that decide what a read of them gives decide it also where they end. -/
theorem first_of_front? [Json.Depth] {bytes rest : Bytes} {result : Reader.Result}
    (h : front? bytes = some (result, rest)) : first bytes = (result, rest) := by
  unfold front? at h
  cases hhead : Reader.split? headerSize bytes with
  | none =>
    rw [hhead] at h
    cases h
  | some parted =>
    obtain ⟨head, later⟩ := parted
    rw [hhead] at h
    obtain ⟨rfl, hlength⟩ := Reader.split?_eq_some_iff.1 hhead
    dsimp only at h
    cases hsize : lengthOf head with
    | error fault =>
      rw [hsize] at h
      cases h
      rw [first_eq hlength, hsize]
    | ok size =>
      rw [hsize] at h
      dsimp only at h
      rw [first_of_header hlength hsize]
      cases hbody : Reader.split? size later with
      | none =>
        rw [hbody] at h
        cases h
      | some parted =>
        obtain ⟨body, last⟩ := parted
        obtain ⟨rfl, rfl⟩ := Reader.split?_eq_some_iff.1 hbody
        rw [hbody] at h
        cases h
        rw [List.take_left, List.drop_left, if_neg (by simp)]

/-- What a read takes is decided as soon as it is there. -/
theorem Whole.front? [Json.Depth] {frame : Bytes} {result : Reader.Result} (h : Whole frame result)
    (rest : Bytes) : front? (frame ++ rest) = some (result, rest) := by
  cases h with
  | beyond full large =>
    unfold Frame.front?
    rw [Reader.split?_eq_some_iff.2 ⟨rfl, full⟩]
    dsimp only
    rw [lengthOf_of_large large]
  | carried full small carried =>
    rw [decode_append full small carried, List.append_assoc,
      Reader.front?_of_header full (lengthOf_of_small small),
      Reader.split?_eq_some_iff.2 ⟨rfl, carried⟩]
    rfl

/-- Reading finds the part that is to be taken. -/
theorem Takes.eq_first [Json.Depth] {octets rest : Bytes} {result : Reader.Result}
    (h : Takes octets result rest) : first octets = (result, rest) := by
  cases h with
  | nothing => rfl
  | shortHeader some short =>
    have hhead : octets.take headerSize = octets := List.take_of_length_le (Nat.le_of_lt short)
    unfold first
    dsimp only
    rw [if_neg (by simpa using some), hhead, if_pos short]
  | shortBody full small short =>
    rw [first_of_header full (lengthOf_of_small small), if_pos short]
  | whole whole => exact first_of_front? (whole.front? rest)

/-- **Some part can always be taken**, whatever the octets are. -/
theorem exists_takes [Json.Depth] (octets : Bytes) : ∃ result rest, Takes octets result rest := by
  by_cases hshort : octets.length < headerSize
  · by_cases hnone : octets = []
    · subst hnone
      exact ⟨_, _, .nothing⟩
    · exact ⟨_, _, .shortHeader hnone hshort⟩
  · have hparts := List.take_append_drop headerSize octets
    have hfull : (octets.take headerSize).length = headerSize :=
      List.length_take_of_le (Nat.le_of_not_lt hshort)
    generalize octets.take headerSize = head at hparts hfull
    generalize octets.drop headerSize = later at hparts
    subst hparts
    by_cases hlarge : mostBytes < declared head
    · exact ⟨_, _, .whole (.beyond hfull hlarge)⟩
    · have hsmall := Nat.le_of_not_lt hlarge
      by_cases hcut : later.length < declared head
      · exact ⟨_, _, .shortBody hfull hsmall hcut⟩
      · have hcarried : (later.take (declared head)).length = declared head :=
          List.length_take_of_le (Nat.le_of_not_lt hcut)
        have hbody : head ++ later
            = head ++ later.take (declared head) ++ later.drop (declared head) := by
          rw [List.append_assoc, List.take_append_drop]
        rw [hbody]
        exact ⟨_, _, .whole (.carried hfull hsmall hcarried)⟩

/-- **There is exactly one part to be taken**, and reading finds it. -/
theorem takes_iff_first [Json.Depth] {octets rest : Bytes} {result : Reader.Result} :
    Takes octets result rest ↔ first octets = (result, rest) := by
  constructor
  · exact Takes.eq_first
  · intro h
    obtain ⟨result', rest', htakes⟩ := exists_takes octets
    rw [htakes.eq_first, Prod.mk.injEq] at h
    obtain ⟨rfl, rfl⟩ := h
    exact htakes

/-- Octets that decide nothing before they end are none at all, or a frame cut short. -/
theorem Takes.of_undecided [Json.Depth] {octets rest : Bytes} {result : Reader.Result}
    (h : Takes octets result rest) (hundecided : front? octets = none) :
    octets = [] ∧ result = .error .closed ∨
      octets ≠ [] ∧ ∃ fault, result = .error (.payload (.protocol fault)) := by
  cases h with
  | nothing => exact .inl ⟨rfl, rfl⟩
  | shortHeader some short => exact .inr ⟨some, _, rfl⟩
  | shortBody full small short =>
    refine .inr ⟨fun hnone => ?_, _, rfl⟩
    rw [(List.append_eq_nil_iff.1 hnone).1] at full
    cases full
  | whole whole =>
    rw [whole.front?] at hundecided
    cases hundecided

/-! ### What reads take one after the other -/

theorem Trail.append [Json.Depth] {octets middle rest : Bytes} {results others : List Reader.Result}
    (h : Trail octets results middle) (later : Trail middle others rest) :
    Trail octets (results ++ others) rest := by
  induction h with
  | nothing => exact later
  | read first _ ih => exact .read first (ih later)

/-- What the octets decide before they end is taken in the same parts. -/
theorem Cut.trail [Json.Depth] {octets rest : Bytes} {results : List Reader.Result}
    (h : Cut octets results rest) : Trail octets results rest := by
  induction h with
  | nothing octets => exact .nothing octets
  | frame first _ ih => exact .read (takes_iff_first.2 (first_of_front? first)) ih

/-- **The octets alone decide the results** of so many reads. -/
theorem Trail.eq_cut [Json.Depth] {octets rest : Bytes} {results : List Reader.Result}
    (h : Trail octets results rest) : results = cut octets results.length := by
  induction h with
  | nothing => rfl
  | read first _ ih =>
    rw [List.length_cons, cut, first.eq_first]
    exact congrArg _ ih

/-- Fewer reads give the first of the results. -/
theorem cut_prefix [Json.Depth] (octets : Bytes) {n m : Nat} (h : n ≤ m) :
    cut octets n <+: cut octets m := by
  induction n generalizing octets m with
  | zero => exact List.nil_prefix
  | succ n ih =>
    cases m with
    | zero => cases h
    | succ m => exact List.prefix_cons_inj _ |>.2 (ih _ (Nat.le_of_succ_le_succ h))

end Frame

namespace Reader

/-! ### The end of a stream -/

/-- A body that is waited for when the stream ends. -/
theorem advanceBody_of_ended [Json.Depth] {r : Reader} {head : Bytes} {size : Nat}
    (hended : r.ended = true)
    (hhead : head.length = Frame.headerSize) (hsize : Frame.lengthOf head = .ok size) :
    r.advanceBody size =
      let taken := Frame.first (head ++ r.buffer)
      (some taken.1, { r with buffer := taken.2, phase := none }) := by
  rw [Frame.first_of_header hhead hsize]
  unfold advanceBody split?
  by_cases hcut : r.buffer.length < size
  · rw [if_pos hcut]
    simp [List.length_take, hended, Nat.min_eq_right (Nat.le_of_lt hcut), Nat.ne_of_lt hcut]
  · rw [if_neg hcut]
    simp [List.length_take, Nat.min_eq_left (Nat.le_of_not_lt hcut)]

/-- A header that is waited for when the stream ends. -/
theorem advanceHeader_of_ended [Json.Depth] {r : Reader} (hended : r.ended = true) :
    r.advanceHeader =
      let taken := Frame.first r.buffer
      (some taken.1, { r with buffer := taken.2, phase := none }) := by
  unfold advanceHeader
  cases hhead : split? Frame.headerSize r.buffer with
  | some parted =>
    obtain ⟨head, later⟩ := parted
    obtain ⟨hbuffer, hlength⟩ := split?_eq_some_iff.1 hhead
    cases hsize : Frame.lengthOf head with
    | error fault =>
      rw [hbuffer, Frame.first_eq hlength]
      simp only [hsize]
    | ok size =>
      simp only [hsize, hbuffer]
      exact advanceBody_of_ended (r := { r with buffer := later }) hended hlength hsize
  | none =>
    have hshort : (r.buffer.take Frame.headerSize).length ≠ Frame.headerSize := by
      intro hfull
      simp [split?, hfull] at hhead
    have hbuffer : r.buffer.take Frame.headerSize = r.buffer :=
      List.take_of_length_le (by rw [List.length_take] at hshort; omega)
    unfold Frame.first
    rw [List.length_take] at hshort
    have hless : (r.buffer.take Frame.headerSize).length < Frame.headerSize := by
      rw [List.length_take]
      omega
    dsimp only
    rw [if_pos hended, if_pos hless, hbuffer]
    by_cases hempty : r.buffer.isEmpty = true
    · simp [hempty]
    · simp [hempty]

/-- **The end of a stream**: a read that is under way takes what is left as the octets decide. -/
theorem advance_of_ended [Json.Depth] {r : Reader} {bytes : Bytes} (hended : r.ended = true)
    (hreading : r.reading = true) (hunread : r.Unread bytes) :
    r.advance =
      let taken := Frame.first bytes
      (some taken.1, { r with buffer := taken.2, phase := none }) := by
  unfold Unread at hunread
  unfold advance
  cases hphase : r.phase with
  | none =>
    rw [reading, hphase] at hreading
    cases hreading
  | some phase =>
    rw [hphase] at hunread
    cases phase with
    | header =>
      subst hunread
      exact advanceHeader_of_ended hended
    | body size =>
      obtain ⟨head, rfl, hhead, hsize⟩ := hunread
      exact advanceBody_of_ended hended hhead hsize

/-- The part that a read under way takes when the stream ends. -/
theorem finish_reading [Json.Depth] {r : Reader} {bytes : Bytes} (stands : r.Stands bytes)
    (hreading : r.reading = true) :
    ∃ result rest, Frame.Takes bytes result rest ∧
      r.step .finish = (some result, { buffer := rest, ended := true }) :=
  ⟨_, _, Frame.takes_iff_first.2 rfl,
    advance_of_ended (r := { r with ended := true }) rfl hreading stands.unread⟩

/-- The end of a stream that no read waits for. -/
theorem finish_idle [Json.Depth] {r : Reader} {bytes : Bytes} (stands : r.Stands bytes)
    (hidle : r.reading = false) :
    r.step .finish = (none, { buffer := bytes, ended := true }) := by
  have hphase : r.phase = none := by simpa [reading] using hidle
  have hbytes : bytes = r.buffer := by
    have hunread := stands.unread
    rwa [Unread, hphase] at hunread
  rw [hbytes, step, finish, advance, hphase]

/-- Reads of a stream that has ended take part after part. -/
theorem begins_trail [Json.Depth] (bytes : Bytes) (n : Nat) :
    let r : Reader := { buffer := bytes, ended := true }
    let events : List Event := List.replicate n .begin
    ∃ rest, Frame.Trail bytes (r.run events) rest ∧
      r.after events = { buffer := rest, ended := true } ∧
      r.started events = n ∧ (r.run events).length = n := by
  induction n generalizing bytes with
  | zero => exact ⟨bytes, .nothing bytes, rfl, rfl, rfl⟩
  | succ n ih =>
    intro r events
    obtain ⟨result, middle, htakes⟩ := Frame.exists_takes bytes
    have hstep : r.step .begin = (some result, { buffer := middle, ended := true }) := by
      have hbegin := advanceHeader_of_ended (r := { r with phase := some .header }) rfl
      rw [show r.step .begin = ({ r with phase := some .header } : Reader).advanceHeader from rfl,
        hbegin, htakes.eq_first]
    obtain ⟨rest, htrail, hafter, hstarted, hlength⟩ := ih middle
    have hrun : r.run events
        = result :: Reader.run { buffer := middle, ended := true } (List.replicate n .begin) := by
      rw [show events = .begin :: List.replicate n .begin from List.replicate_succ, run_cons, hstep]
      rfl
    have hcount := started_cons r .begin (List.replicate n .begin)
    rw [show r.reading.toNat = 0 from rfl, show (r.wants .begin).toNat = 1 from rfl, hstep,
      hstarted] at hcount
    refine ⟨rest, ?_, ?_, ?_, ?_⟩
    · rw [hrun]
      exact .read htakes htrail
    · rw [← hafter]
      show (r.step .begin).2.after _ = _
      rw [hstep]
    · rw [show events = .begin :: List.replicate n .begin from List.replicate_succ]
      omega
    · rw [hrun, List.length_cons, hlength]

/-! ### Whole streams -/

/-- **Reads of a stream that ends cut its octets from the left**, part by part, in whatever pieces they
arrive and whenever the reads begin. -/
theorem run_trail [Json.Depth] {script : List Event} (hopen : .finish ∉ script) (extra : Nat) :
    let events := script ++ .finish :: List.replicate extra .begin
    ∃ rest, Frame.Trail (fed script) (fresh.run events) rest ∧
      fresh.after events = { buffer := rest, ended := true } ∧
      (fresh.run events).length = fresh.started events ∧ extra ≤ fresh.started events := by
  intro events
  obtain ⟨middle, hcut, hstands, hcount⟩ := run_fresh hopen
  have hwants : (fresh.after script).wants .finish = (fresh.after script).reading := by simp [wants]
  have hend := started_cons (fresh.after script) .finish (List.replicate extra .begin)
  rw [hwants] at hend
  rw [run_append, started_append, after_append, run_cons, hcount]
  show ∃ rest, _ ∧ ((fresh.after script).step .finish).2.after _ = _ ∧ _
  cases hreading : (fresh.after script).reading with
  | true =>
    obtain ⟨result, left, htakes, hstep⟩ := finish_reading hstands hreading
    obtain ⟨rest, htrail, hafter, hstarted, hlength⟩ := begins_trail left extra
    rw [hreading, hstep, hstarted, Bool.toNat_true] at hend
    rw [hstep]
    refine ⟨rest, hcut.trail.append (.read htakes htrail), hafter, ?_, by omega⟩
    simp only [Option.toList_some, List.length_append, List.length_cons, List.length_nil,
      Bool.toNat_true]
    omega
  | false =>
    obtain ⟨rest, htrail, hafter, hstarted, hlength⟩ := begins_trail middle extra
    rw [hreading, finish_idle hstands hreading, hstarted, Bool.toNat_false] at hend
    rw [finish_idle hstands hreading]
    refine ⟨rest, hcut.trail.append htrail, hafter, ?_, by omega⟩
    simp only [Option.toList_none, List.nil_append, List.length_append, Bool.toNat_false]
    omega

/-- **In which pieces octets arrive and when the reads begin does not matter**: the reads of a
stream that ends give what its octets hold, frame by frame, each one result. -/
theorem run_cut [Json.Depth] {script : List Event} (hopen : .finish ∉ script) (extra : Nat) :
    let events := script ++ .finish :: List.replicate extra .begin
    fresh.run events = Frame.cut (fed script) (fresh.started events) ∧
      extra ≤ fresh.started events := by
  intro events
  obtain ⟨rest, htrail, _, hlength, hmore⟩ := run_trail hopen extra
  rw [← hlength]
  exact ⟨htrail.eq_cut, hlength ▸ hmore⟩

/-- **Reads of a stream agree with decoding, for any octets.**  Take any octets that arrive in any
pieces, any reads that begin before, between or behind them, the end of the stream, and more reads.

* Each read gives one result, and takes off the left of the octets what belongs to it: a header beyond
  the limit alone, a header with its body if all of it is there, and everything if it is not.  A whole
  frame gives what decoding it gives.  So the next read starts behind it, whether or not it failed.
* What the last read leaves is what is left in the end.
* No other results are cut off these octets.
* If the same octets arrive in other pieces and meet other reads, the results are the same, as far as
  both go. -/
theorem reads_as_decoded [Json.Depth] {script : List Event} (hopen : .finish ∉ script)
    (extra : Nat) :
    let events := script ++ .finish :: List.replicate extra .begin
    (∃ rest, Frame.Trail (fed script) (fresh.run events) rest ∧
      fresh.after events = { buffer := rest, ended := true }) ∧
    ((fresh.run events).length = fresh.started events ∧ extra ≤ fresh.started events) ∧
    (∀ results rest, Frame.Trail (fed script) results rest →
      results.length = fresh.started events → results = fresh.run events) ∧
    ∀ (other : List Event) (more : Nat), .finish ∉ other → fed other = fed script →
      let others := other ++ .finish :: List.replicate more .begin
      fresh.started events ≤ fresh.started others → fresh.run events <+: fresh.run others := by
  intro events
  obtain ⟨rest, htrail, hafter, hlength, hmore⟩ := run_trail hopen extra
  obtain ⟨hcut, _⟩ := run_cut hopen extra
  refine ⟨⟨rest, htrail, hafter⟩, ⟨hlength, hmore⟩, ?_, ?_⟩
  · intro results left hother hcount
    rw [hother.eq_cut, hcount]
    exact hcut.symm
  · intro other more hopen' hfed others hstarted
    rw [hcut, (run_cut hopen' more).1, hfed]
    exact Frame.cut_prefix _ hstarted

/-- A header beyond the limit, a frame without a payload, a frame of a message, and a header cut
short. -/
def spoiled : Bytes :=
  List.replicate 8 255 ++ Frame.header 0 ++ ((Frame.encode .closeSocket).toOption).getD [] ++ [1, 2, 3]

/-- These octets in pieces of five, with a read that begins before them and two behind them. -/
def piecemeal : List Event :=
  .begin :: (List.range 9).map (fun i => .feed ((spoiled.drop (5 * i)).take 5)) ++ [.begin, .begin]

/-- Each failure takes its own octets only, so that the message between them is read: in pieces of
five octets as well as in one piece. -/
theorem spoiled_recovers :
    let piecewise := piecemeal ++ .finish :: List.replicate 2 .begin
    let whole := [.feed spoiled] ++ .finish :: List.replicate 5 .begin
    fresh.run piecewise <+: fresh.run whole ∧
      fresh.run whole = [
        .error (.payload (.protocol (.tooLarge (2 ^ 64 - 1)))),
        .error (.payload (.protocol (.invalidJson (.found .expectingValue 1 1 0)))),
        .ok .closeSocket,
        .error (.payload (.protocol (.truncatedHeader 3))),
        .error .closed] := by
  have hagrees := (@reads_as_decoded _ piecemeal (by decide) 2).2.2.2
  exact ⟨hagrees [.feed spoiled] 5 (by decide) (by decide) (by decide), by decide +kernel⟩

end Reader

end ControlChannel
