import ControlChannel.Frame
import ControlChannel.Proofs.MessageRoundTrip

/-!
# Frames: decoding gives back what was encoded

* `declared_header` — a header declares the length that it was made for;
* `messageOf_payload` — a payload reads back as its message;
* `encode_eq_ok_iff` — which messages have a frame, and what it is;
* `encode_idResponse` — a process id always has one;
* `encode_round_trip` — **a message has no frame exactly when a surrogate is in one of its texts
  or its payload is beyond the limit; otherwise its frame reads back as that message**.
-/

namespace ControlChannel

namespace Frame

/-! ### Headers -/

theorem header_length (n : Nat) : (header n).length = headerSize := by
  rw [header, List.length_map, List.length_range]

/-- A header declares the length that it was made for, the least octet first. -/
theorem declared_header {n : Nat} (hn : n < 2 ^ 64) : declared (header n) = n := by
  have hoctets : header n = [.ofNat n, .ofNat (n / 256), .ofNat (n / 256 ^ 2),
      .ofNat (n / 256 ^ 3), .ofNat (n / 256 ^ 4), .ofNat (n / 256 ^ 5), .ofNat (n / 256 ^ 6),
      .ofNat (n / 256 ^ 7)] := by
    rw [header, show List.range headerSize = [0, 1, 2, 3, 4, 5, 6, 7] from rfl]
    simp
  rw [hoctets]
  simp only [declared, List.foldr_cons, List.foldr_nil, UInt8.toNat_ofNat']
  omega

/-! ### Payloads -/

/-- The octets of the JSON text of a message. -/
def payload (m : Message) : Bytes := m.render.flatMap Utf8.octets

/-- The JSON text of a message has octets exactly when no surrogate is in the texts that the
message carries. -/
theorem encode_render_iff (m : Message) (bytes : Bytes) :
    Utf8.encode m.render = .ok bytes ↔
      (∀ text ∈ m.texts, ∀ c ∈ text, c.isSurrogate = false) ∧ bytes = payload m := by
  have hscalar : (∀ c ∈ m.render, c.isSurrogate = false) ↔
      ∀ text ∈ m.texts, ∀ c ∈ text, c.isSurrogate = false := by
    have hrender := Message.isScalar_render m
    rw [Bool.eq_iff_iff] at hrender
    simpa [Text.isScalar] using hrender
  rw [Utf8.encode_eq_ok_iff, hscalar, payload]

/-- The octets of a rendered message read back as that message. -/
theorem messageOf_payload [Json.Depth] (m : Message)
    (hs : ∀ text ∈ m.texts, ∀ c ∈ text, c.isSurrogate = false) :
    messageOf (payload m) = .ok m := by
  have hencode := (encode_render_iff m (payload m)).2 ⟨hs, rfl⟩
  have hclean := ((Utf8.encode_eq_ok_iff _ _).1 hencode).1
  rw [messageOf, payload, Utf8.decode_flatMap_octets _ hclean]
  exact Message.parse_render m

/-! ### Whole frames -/

/-- Which messages have a frame, and what it is. -/
theorem encode_eq_ok_iff (m : Message) (frame : Bytes) :
    encode m = .ok frame ↔
      (∀ text ∈ m.texts, ∀ c ∈ text, c.isSurrogate = false) ∧
        (payload m).length ≤ mostBytes ∧ frame = header (payload m).length ++ payload m := by
  unfold encode
  cases hbytes : Utf8.encode m.render with
  | error fault =>
    constructor
    · intro h
      cases h
    · rintro ⟨hs, _, _⟩
      rw [(encode_render_iff m (payload m)).2 ⟨hs, rfl⟩] at hbytes
      cases hbytes
  | ok bytes =>
    obtain ⟨hs, rfl⟩ := (encode_render_iff m bytes).1 hbytes
    dsimp only
    split_ifs with hlarge
    · constructor
      · intro h
        cases h
      · rintro ⟨_, hsmall, _⟩
        omega
    · constructor
      · intro h
        cases h
        exact ⟨hs, by omega, rfl⟩
      · rintro ⟨_, _, rfl⟩
        rfl

/-- A frame is its header and the payload that the header declares. -/
theorem decode_header_append [Json.Depth] {bytes : Bytes} (hsmall : bytes.length ≤ mostBytes) :
    decode (header bytes.length ++ bytes) = messageOf bytes := by
  have htake : (header bytes.length ++ bytes).take headerSize = header bytes.length := by
    rw [← header_length bytes.length, List.take_left]
  have hdrop : (header bytes.length ++ bytes).drop headerSize = bytes := by
    rw [← header_length bytes.length, List.drop_left]
  have hdeclared : declared (header bytes.length) = bytes.length := by
    refine declared_header (Nat.lt_of_le_of_lt hsmall ?_)
    decide
  unfold decode
  rw [htake, hdrop]
  dsimp only
  rw [if_neg (by rw [header_length]; omega), lengthOf, hdeclared, if_neg (Nat.not_lt.2 hsmall)]
  exact if_pos rfl

theorem decode_encode [Json.Depth] {m : Message} {frame : Bytes} (h : encode m = .ok frame) :
    decode frame = .ok m := by
  obtain ⟨hs, hsmall, rfl⟩ := (encode_eq_ok_iff m frame).1 h
  rw [decode_header_append hsmall, messageOf_payload m hs]

/-! ### The frame of a process id -/

theorem length_octets_le (c : CodePoint) : (Utf8.octets c).length ≤ 4 := by
  unfold Utf8.octets
  dsimp only
  split_ifs
  all_goals
    simp only [List.length_cons, List.length_nil]
    omega

theorem length_payload_le (m : Message) : (payload m).length ≤ 4 * m.render.length := by
  unfold payload
  induction m.render with
  | nil => exact Nat.le_refl 0
  | cons c text ih =>
    rw [List.flatMap_cons, List.length_append, List.length_cons]
    have hc := length_octets_le c
    omega

/-- **A process id always has a frame**: it has ten digits at most. -/
theorem encode_idResponse (pid : Pid) : ∃ frame, encode (.idResponse pid) = .ok frame := by
  have hdigits : (Text.ofNat pid.val).length ≤ 10 := by
    rw [Text.ofNat, List.length_map, Nat.length_toDigits_le_iff (by decide) (by decide)]
    exact Nat.lt_trans pid.isLt (by decide)
  have hrender : (Message.idResponse pid).render
      = ("\x7b\"type\": \"id.response\", \"pid\": " : Text)
        ++ (Text.ofNat pid.val ++ [] ++ ("\x7d" : Text)) := rfl
  have hlength : (Message.idResponse pid).render.length ≤ 50 := by
    rw [hrender, List.length_append, List.length_append, List.length_append]
    have hhead : ("\x7b\"type\": \"id.response\", \"pid\": " : Text).length = 31 := by decide
    have htail : ("\x7d" : Text).length = 1 := by decide
    rw [hhead, htail, List.length_nil]
    omega
  refine ⟨_, (encode_eq_ok_iff (.idResponse pid) _).2 ⟨?_, ?_, rfl⟩⟩
  · intro text htext
    cases htext
  · refine Nat.le_trans (length_payload_le _) (Nat.le_trans (Nat.mul_le_mul_left 4 hlength) ?_)
    decide

/-! ### Which messages have a frame -/

/-- Why a message can have no frame: a surrogate is in one of its texts, or the octets of its JSON
text are beyond the limit. -/
def Unframeable (m : Message) : Prop :=
  (∃ text ∈ m.texts, ∃ c ∈ text, c.isSurrogate = true) ∨
    ∃ bytes, Utf8.encode m.render = .ok bytes ∧ mostBytes < bytes.length

/-- A message that can have a frame holds no surrogate and keeps to the limit. -/
theorem not_unframeable_iff (m : Message) :
    ¬ Unframeable m ↔
      (∀ text ∈ m.texts, ∀ c ∈ text, c.isSurrogate = false) ∧ (payload m).length ≤ mostBytes := by
  constructor
  · intro h
    have hs : ∀ text ∈ m.texts, ∀ c ∈ text, c.isSurrogate = false := by
      intro text htext c hc
      rw [← Bool.not_eq_true]
      intro hbad
      exact h (.inl ⟨text, htext, c, hc, hbad⟩)
    refine ⟨hs, Nat.le_of_not_lt fun hlarge => h (.inr ⟨payload m, ?_, hlarge⟩)⟩
    exact (encode_render_iff m _).2 ⟨hs, rfl⟩
  · rintro ⟨hs, hsmall⟩ (⟨text, htext, c, hc, hbad⟩ | ⟨bytes, hbytes, hlarge⟩)
    · rw [hs text htext c hc] at hbad
      cases hbad
    · obtain ⟨_, rfl⟩ := (encode_render_iff m bytes).1 hbytes
      omega

/-- **A message has no frame exactly when a surrogate is in one of its texts or the octets of its
JSON text are beyond the limit.**  Otherwise its frame is a header of eight octets, which declare
the length of those octets with the least octet first, and those octets; and the frame reads back
as that very message. -/
theorem encode_round_trip [Json.Depth] (m : Message) :
    ((∃ fault, encode m = .error fault) ↔ Unframeable m) ∧
      (Unframeable m ∨ ∃ head bytes, Utf8.encode m.render = .ok bytes ∧ head.length = 8 ∧
        declared head = bytes.length ∧ encode m = .ok (head ++ bytes) ∧
        decode (head ++ bytes) = .ok m) := by
  by_cases hbad : Unframeable m
  · refine ⟨⟨fun _ => hbad, fun _ => ?_⟩, .inl hbad⟩
    cases hencode : encode m with
    | error fault => exact ⟨fault, rfl⟩
    | ok frame =>
      obtain ⟨hs, hsmall, _⟩ := (encode_eq_ok_iff m frame).1 hencode
      exact absurd hbad ((not_unframeable_iff m).2 ⟨hs, hsmall⟩)
  · obtain ⟨hs, hsmall⟩ := (not_unframeable_iff m).1 hbad
    have hencode : encode m = .ok (header (payload m).length ++ payload m) :=
      (encode_eq_ok_iff m _).2 ⟨hs, hsmall, rfl⟩
    refine ⟨⟨?_, fun h => absurd h hbad⟩, .inr ⟨header (payload m).length, payload m, ?_⟩⟩
    · rintro ⟨fault, hfault⟩
      rw [hencode] at hfault
      cases hfault
    · refine ⟨(encode_render_iff m _).2 ⟨hs, rfl⟩, header_length _, ?_, hencode,
        decode_encode hencode⟩
      exact declared_header (Nat.lt_of_le_of_lt hsmall (by decide))

end Frame

end ControlChannel
