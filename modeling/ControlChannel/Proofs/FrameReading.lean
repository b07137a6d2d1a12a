import ControlChannel.Delivery
import ControlChannel.Proofs.FrameRoundTrip

/-!
# Reading the first frame of octets

* `Frame.front?` — what a read of octets gives as soon as enough of them are there, and what it
  leaves, **whatever comes after them**;
* `Frame.front?_eq_ok_iff` — a read gives a message exactly when the octets begin with a frame of
  that message;
* `Delivery.receive_eq_message_iff` — so it is for a delivery, whatever comes after its octets.
-/

namespace ControlChannel

namespace Reader

theorem split?_eq_some_iff {n : Nat} {buffer front rest : Bytes} :
    split? n buffer = some (front, rest) ↔ buffer = front ++ rest ∧ front.length = n := by
  unfold split?
  dsimp only
  split_ifs with hfull
  · constructor
    · intro h
      cases h
      exact ⟨(List.take_append_drop n buffer).symm, hfull⟩
    · rintro ⟨rfl, rfl⟩
      rw [List.take_left, List.drop_left]
  · constructor
    · intro h
      cases h
    · rintro ⟨rfl, rfl⟩
      rw [List.take_left] at hfull
      exact absurd rfl hfull

theorem split?_append {n : Nat} {buffer front rest : Bytes}
    (h : split? n buffer = some (front, rest)) (extra : Bytes) :
    split? n (buffer ++ extra) = some (front, rest ++ extra) := by
  obtain ⟨rfl, hlen⟩ := split?_eq_some_iff.1 h
  exact split?_eq_some_iff.2 ⟨List.append_assoc _ _ _, hlen⟩

end Reader

namespace Frame

/-- What a read of octets gives, and the octets that it leaves; nothing while this depends on
what comes after them. -/
def front? [Json.Depth] (bytes : Bytes) : Option (Reader.Result × Bytes) :=
  match Reader.split? headerSize bytes with
  | none => none
  | some (head, rest) =>
    match lengthOf head with
    | .error fault => some (.error (.payload (.protocol fault)), rest)
    | .ok size =>
      match Reader.split? size rest with
      | none => none
      | some (body, rest) => some ((messageOf body).mapError .payload, rest)

/-- **What is decided stays so**: later octets are left where they are. -/
theorem front?_append [Json.Depth] {bytes rest : Bytes} {result : Reader.Result}
    (h : front? bytes = some (result, rest)) (extra : Bytes) :
    front? (bytes ++ extra) = some (result, rest ++ extra) := by
  unfold front? at h ⊢
  cases hhead : Reader.split? headerSize bytes with
  | none =>
    rw [hhead] at h
    cases h
  | some parted =>
    obtain ⟨head, later⟩ := parted
    rw [hhead] at h
    rw [Reader.split?_append hhead extra]
    dsimp only at h ⊢
    cases hlength : lengthOf head with
    | error fault =>
      rw [hlength] at h
      cases h
      rfl
    | ok size =>
      rw [hlength] at h
      dsimp only at h ⊢
      cases hbody : Reader.split? size later with
      | none =>
        rw [hbody] at h
        cases h
      | some parted =>
        obtain ⟨body, last⟩ := parted
        rw [hbody] at h
        rw [Reader.split?_append hbody extra]
        cases h
        rfl

/-- A frame of a message is a header and the payload that it declares, which is within the
limit and reads as that message. -/
theorem decode_eq_ok_iff [Json.Depth] {frame : Bytes} {m : Message} :
    decode frame = .ok m ↔
      ∃ head body, frame = head ++ body ∧ head.length = headerSize ∧
        lengthOf head = .ok body.length ∧ messageOf body = .ok m := by
  constructor
  · intro h
    unfold decode at h
    dsimp only at h
    split_ifs at h with hshort
    · split at h
      · cases h
      · rename_i size hlength
        split_ifs at h with hcarried
        · refine ⟨frame.take headerSize, frame.drop headerSize, ?_, ?_, ?_, h⟩
          · exact (List.take_append_drop headerSize frame).symm
          · have := List.length_take_le headerSize frame
            omega
          · rw [hlength, hcarried]
  · rintro ⟨head, body, rfl, hhead, hlength, hbody⟩
    unfold decode
    dsimp only
    rw [← hhead, List.take_left, List.drop_left, if_neg (Nat.lt_irrefl _), hlength]
    dsimp only
    rw [if_pos rfl, hbody]

/-- **A read gives a message exactly when the octets begin with a frame of that message.** -/
theorem front?_eq_ok_iff [Json.Depth] {bytes rest : Bytes} {m : Message} :
    front? bytes = some (.ok m, rest) ↔ ∃ frame, bytes = frame ++ rest ∧ decode frame = .ok m := by
  constructor
  · intro h
    unfold front? at h
    split at h
    · cases h
    · rename_i head later hhead
      obtain ⟨rfl, hsize⟩ := Reader.split?_eq_some_iff.1 hhead
      split at h
      · cases h
      · rename_i size hlength
        split at h
        · cases h
        · rename_i body last hbody
          obtain ⟨rfl, rfl⟩ := Reader.split?_eq_some_iff.1 hbody
          rw [Option.some.injEq, Prod.mk.injEq] at h
          obtain ⟨hmessage, rfl⟩ := h
          refine ⟨head ++ body, (List.append_assoc _ _ _).symm, ?_⟩
          refine decode_eq_ok_iff.2 ⟨head, body, rfl, hsize, hlength, ?_⟩
          cases hread : messageOf body with
          | error fault =>
            rw [hread] at hmessage
            cases hmessage
          | ok message =>
            rw [hread] at hmessage
            cases hmessage
            rfl
  · rintro ⟨frame, rfl, hdecode⟩
    obtain ⟨head, body, rfl, hhead, hlength, hbody⟩ := decode_eq_ok_iff.1 hdecode
    have hsplit : Reader.split? headerSize (head ++ body ++ rest) = some (head, body ++ rest) :=
      Reader.split?_eq_some_iff.2 ⟨List.append_assoc _ _ _, hhead⟩
    unfold front?
    rw [hsplit]
    dsimp only
    rw [hlength]
    dsimp only
    rw [Reader.split?_eq_some_iff.2 ⟨rfl, rfl⟩]
    dsimp only
    rw [hbody]
    rfl

/-- The first frame of octets that begin with the frame of a message. -/
theorem front?_of_decode [Json.Depth] {frame : Bytes} {m : Message} (h : decode frame = .ok m)
    (rest : Bytes) :
    front? (frame ++ rest) = some (.ok m, rest) := front?_eq_ok_iff.2 ⟨frame, rfl, h⟩

end Frame

namespace Reader

/-- A read that waits for a header takes what its octets decide. -/
theorem advanceHeader_of_front? [Json.Depth] {r : Reader} {result : Result} {rest : Bytes}
    (h : Frame.front? r.buffer = some (result, rest)) :
    r.advanceHeader = (some result, { r with buffer := rest, phase := none }) := by
  unfold Frame.front? at h
  unfold advanceHeader
  cases hhead : split? Frame.headerSize r.buffer with
  | none =>
    rw [hhead] at h
    cases h
  | some parted =>
    obtain ⟨head, later⟩ := parted
    rw [hhead] at h
    dsimp only at h ⊢
    cases hlength : Frame.lengthOf head with
    | error fault =>
      rw [hlength] at h
      cases h
      rfl
    | ok size =>
      rw [hlength] at h
      dsimp only [advanceBody] at h ⊢
      cases hbody : split? size later with
      | none =>
        rw [hbody] at h
        cases h
      | some parted =>
        obtain ⟨body, last⟩ := parted
        rw [hbody] at h
        cases h
        rfl

/-- A read whose octets decide nothing waits, or fails if none will follow. -/
theorem advanceHeader_of_undecided [Json.Depth] {r : Reader} (h : Frame.front? r.buffer = none) :
    if r.ended then ∃ fault, r.advanceHeader.1 = some (.error fault)
    else r.advanceHeader.1 = none := by
  unfold Frame.front? at h
  unfold advanceHeader
  cases hhead : split? Frame.headerSize r.buffer with
  | none =>
    dsimp only
    by_cases hended : r.ended = true
    · rw [if_pos hended, if_pos hended]
      exact ⟨_, rfl⟩
    · rw [if_neg hended, if_neg hended]
  | some parted =>
    obtain ⟨head, later⟩ := parted
    rw [hhead] at h
    dsimp only at h ⊢
    cases hlength : Frame.lengthOf head with
    | error fault =>
      rw [hlength] at h
      cases h
    | ok size =>
      rw [hlength] at h
      dsimp only [advanceBody] at h ⊢
      cases hbody : split? size later with
      | some parted =>
        rw [hbody] at h
        cases h
      | none =>
        dsimp only
        by_cases hended : r.ended = true
        · rw [if_pos hended, if_pos hended]
          exact ⟨_, rfl⟩
        · rw [if_neg hended, if_neg hended]

end Reader

namespace Delivery

/-- Reading a delivery gives the message that its octets begin with, and leaves the rest. -/
theorem receive_of_front? [Json.Depth] {d : Delivery} {m : Message} {rest : Bytes}
    (h : Frame.front? d.bytes = some (.ok m, rest)) :
    d.receive = .message m { d with bytes := rest } := by
  have hbegin := Reader.advanceHeader_of_front? (r := { d.reader with phase := some .header }) h
  unfold receive
  rw [show d.reader.begin = ({ d.reader with phase := some .header } : Reader).advanceHeader
    from rfl, hbegin]

/-- Reading a delivery fails as its octets decide. -/
theorem receive_of_front?_error [Json.Depth] {d : Delivery} {fault : ReadFault} {rest : Bytes}
    (h : Frame.front? d.bytes = some (.error fault, rest)) : d.receive = .refused fault := by
  have hbegin := Reader.advanceHeader_of_front? (r := { d.reader with phase := some .header }) h
  unfold receive
  rw [show d.reader.begin = ({ d.reader with phase := some .header } : Reader).advanceHeader
    from rfl, hbegin]

/-- A delivery whose octets decide nothing gives no message. -/
theorem receive_of_undecided [Json.Depth] {d : Delivery} (h : Frame.front? d.bytes = none) :
    (∃ fault, d.receive = .refused fault) ∨ d.receive = .broken ∨ d.receive = .silence := by
  have hbegin := Reader.advanceHeader_of_undecided
    (r := { d.reader with phase := some .header }) h
  unfold receive
  rw [show d.reader.begin = ({ d.reader with phase := some .header } : Reader).advanceHeader
    from rfl]
  generalize ({ d.reader with phase := some .header } : Reader).advanceHeader = outcome at hbegin ⊢
  obtain ⟨result, reader⟩ := outcome
  split_ifs at hbegin with hended
  · obtain ⟨fault, rfl⟩ := hbegin
    exact .inl ⟨fault, rfl⟩
  · obtain rfl : result = none := hbegin
    dsimp only
    split_ifs with hbreaks
    · exact .inr (.inl rfl)
    · exact .inr (.inr rfl)

/-- **A delivery gives a message exactly when its octets begin with a frame of that message**; how
it goes on after its octets does not matter. -/
theorem receive_eq_message_iff [Json.Depth] {d later : Delivery} {m : Message} :
    d.receive = .message m later ↔
      ∃ frame rest, d.bytes = frame ++ rest ∧ Frame.decode frame = .ok m ∧
        later = { d with bytes := rest } := by
  constructor
  · intro h
    cases hfront : Frame.front? d.bytes with
    | none =>
      obtain ⟨fault, hreceive⟩ | hreceive | hreceive := receive_of_undecided hfront
      all_goals
        rw [hreceive] at h
        cases h
    | some outcome =>
      obtain ⟨result, rest⟩ := outcome
      cases result with
      | error fault =>
        rw [receive_of_front?_error hfront] at h
        cases h
      | ok message =>
        rw [receive_of_front? hfront] at h
        cases h
        obtain ⟨frame, hbytes, hdecode⟩ := Frame.front?_eq_ok_iff.1 hfront
        exact ⟨frame, rest, hbytes, hdecode, rfl⟩
  · rintro ⟨frame, rest, hbytes, hdecode, rfl⟩
    exact receive_of_front? (Frame.front?_eq_ok_iff.2 ⟨frame, hbytes, hdecode⟩)

/-- The frame of a message is received as that message, and what follows it is left. -/
theorem receive_encode [Json.Depth] {m : Message} {frame : Bytes} (h : Frame.encode m = .ok frame)
    (rest : Bytes) (manner : Manner) :
    receive { bytes := frame ++ rest, manner } = .message m { bytes := rest, manner } :=
  receive_eq_message_iff.2 ⟨frame, rest, rfl, Frame.decode_encode h, rfl⟩

end Delivery

end ControlChannel
