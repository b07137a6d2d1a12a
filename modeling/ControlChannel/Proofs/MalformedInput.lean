import ControlChannel.Proofs.DecodedStream
import ControlChannel.Proofs.LivePeer

/-!
# What reading malformed octets comes to

Every text, every frame and every stream gives a message or a failure of the control channel, with
one exception: **an object whose tag is a list or an object fails in a way that no caller expects**,
since such a value cannot be looked up among the tags.

* `Message.Orderly`, `Reader.Orderly` — results that callers are prepared for;
* `Message.Baffles`, `Frame.Baffles` — the texts and the frames that give another one;
* `Frame.malformed_orderly_exactly` — what is read is orderly exactly unless it baffles.
-/

namespace ControlChannel

/-! ### Texts -/

/-- A value that is made of others, which no table can be asked for. -/
def Json.IsComposite : Json → Prop
  | .list _ => True
  | .object _ => True
  | _ => False

namespace Message

/-- A message, or a breach of the protocol. -/
def Orderly (result : Except PayloadFault Message) : Prop :=
  (∃ m, result = .ok m) ∨ ∃ fault, result = .error (.protocol fault)

/-- The text is an object whose tag is a list or an object. -/
def Baffles [Json.Depth] (text : Text) : Prop :=
  ∃ members tag, Json.parse text = .ok (.object members) ∧
    Json.member? "type" members = some tag ∧ tag.IsComposite

theorem not_orderly_compositeTag (kind : Text) : ¬ Orderly (.error (.compositeTag kind)) := by
  intro h
  rcases h with ⟨m, hm⟩ | ⟨fault, hfault⟩
  · cases hm
  · cases hfault

/-- Whatever its fields hold, an object with a text for its tag is read or breaches the protocol. -/
theorem ofMembers_orderly (name : Text) (fields : List (Text × Json)) :
    Orderly (ofMembers name fields) := by
  unfold ofMembers
  cases Tag.ofName? name with
  | none => exact .inr ⟨_, rfl⟩
  | some tag =>
    dsimp only
    by_cases hnames : fields.map (·.1) = tag.fieldNames
    · rw [if_pos hnames]
      cases ofField tag ((fields.head?.map (·.2)).getD .null) with
      | ok m => exact .inl ⟨m, rfl⟩
      | error fault => exact .inr ⟨fault, rfl⟩
    · rw [if_neg hnames]
      exact .inr ⟨_, rfl⟩

/-- The values that give no orderly result are the objects with a composite tag. -/
theorem ofJson_orderly_iff (value : Json) :
    Orderly (ofJson value) ↔ ¬ ∃ members tag, value = .object members ∧
      Json.member? "type" members = some tag ∧ tag.IsComposite := by
  cases value with
  | object members =>
    cases htag : Json.member? "type" members with
    | none =>
      have hread : Orderly (ofJson (.object members)) := by
        simp only [ofJson, htag]
        exact .inr ⟨_, rfl⟩
      simp [hread, htag]
    | some tag =>
      have hbaffles : (∃ members' tag', Json.object members = .object members' ∧
          Json.member? "type" members' = some tag' ∧ tag'.IsComposite) ↔ tag.IsComposite := by
        simp [htag]
      rw [hbaffles]
      simp only [ofJson, htag, Option.getD_some]
      cases tag with
      | str name => simp [ofMembers_orderly, Json.IsComposite]
      | list items => simp [not_orderly_compositeTag, Json.IsComposite]
      | object members => simp [not_orderly_compositeTag, Json.IsComposite]
      | _ => simp [Orderly, Json.IsComposite]
  | _ => simp [ofJson, Orderly]

/-- **A text gives an orderly result exactly unless it baffles.** -/
theorem parse_orderly_iff [Json.Depth] (text : Text) : Orderly (parse text) ↔ ¬ Baffles text := by
  unfold Baffles parse
  cases hread : Json.parse text with
  | error error => simp [Orderly]
  | ok value =>
    rw [ofJson_orderly_iff]
    simp

end Message

/-! ### Frames -/

namespace Frame

/-- The octets are one whole frame, whose payload is a text that baffles. -/
def Baffles [Json.Depth] (frame : Bytes) : Prop :=
  ∃ head body text, frame = head ++ body ∧ head.length = headerSize ∧
    lengthOf head = .ok body.length ∧ Utf8.decode body = .ok text ∧ Message.Baffles text

theorem messageOf_orderly_iff [Json.Depth] (body : Bytes) :
    Message.Orderly (messageOf body) ↔
      ¬ ∃ text, Utf8.decode body = .ok text ∧ Message.Baffles text := by
  unfold messageOf
  cases hread : Utf8.decode body with
  | error fault => simp [Message.Orderly]
  | ok text => simp [Message.parse_orderly_iff]

/-- Octets behind a header of the right length baffle if they do as a payload. -/
theorem baffles_append_iff [Json.Depth] {head body : Bytes} (hhead : head.length = headerSize)
    (hsize : lengthOf head = .ok body.length) :
    Baffles (head ++ body) ↔ ¬ Message.Orderly (messageOf body) := by
  rw [messageOf_orderly_iff, not_not]
  constructor
  · intro h
    obtain ⟨head', body', text, happend, hhead', _, hbaffles⟩ := h
    obtain ⟨rfl, rfl⟩ := List.append_inj happend (hhead.trans hhead'.symm)
    exact ⟨text, hbaffles⟩
  · intro h
    obtain ⟨text, hbaffles⟩ := h
    exact ⟨head, body, text, rfl, hhead, hsize, hbaffles⟩

/-- **Octets that are to be one frame give an orderly result exactly unless they baffle.** -/
theorem decode_orderly_iff [Json.Depth] (frame : Bytes) :
    Message.Orderly (decode frame) ↔ ¬ Baffles frame := by
  -- octets that are no whole frame breach the protocol, and do not baffle
  have hbroken : (¬ ∃ head body, frame = head ++ body ∧ head.length = headerSize ∧
      lengthOf head = .ok body.length) → ¬ Baffles frame := by
    intro hnone h
    obtain ⟨head, body, _, happend, hhead, hsize, _⟩ := h
    exact hnone ⟨head, body, happend, hhead, hsize⟩
  unfold decode
  dsimp only
  by_cases hshort : (frame.take headerSize).length < headerSize
  · rw [if_pos hshort]
    refine iff_of_true (.inr ⟨_, rfl⟩) (hbroken ?_)
    intro h
    obtain ⟨head, body, rfl, hhead, _⟩ := h
    rw [← hhead, List.take_left] at hshort
    omega
  · rw [if_neg hshort]
    have hhead : (frame.take headerSize).length = headerSize :=
      le_antisymm (List.length_take_le _ _) (Nat.le_of_not_lt hshort)
    have hparts := List.take_append_drop headerSize frame
    -- another way to cut the header off is the same
    have hunique : ∀ {head body : Bytes}, frame = head ++ body → head.length = headerSize →
        frame.take headerSize = head ∧ frame.drop headerSize = body := by
      intro head body happend hlength
      exact List.append_inj (hparts.trans happend) (hhead.trans hlength.symm)
    cases hsize : lengthOf (frame.take headerSize) with
    | error fault =>
      refine iff_of_true (.inr ⟨_, rfl⟩) (hbroken ?_)
      intro h
      obtain ⟨head, body, happend, hlength, hok⟩ := h
      rw [← (hunique happend hlength).1, hsize] at hok
      cases hok
    | ok size =>
      dsimp only
      by_cases hcarried : (frame.drop headerSize).length = size
      · rw [if_pos hcarried]
        have hiff := baffles_append_iff hhead (hsize.trans (congrArg Except.ok hcarried.symm))
        rw [hparts] at hiff
        rw [hiff, not_not]
      · rw [if_neg hcarried]
        refine iff_of_true (.inr ⟨_, rfl⟩) (hbroken ?_)
        intro h
        obtain ⟨head, body, happend, hlength, hok⟩ := h
        obtain ⟨rfl, rfl⟩ := hunique happend hlength
        rw [hsize] at hok
        exact hcarried (Except.ok.inj hok).symm

end Frame

/-! ### Streams -/

namespace Reader

/-- A message, the end of the stream, or a breach of the protocol. -/
def Orderly (result : Result) : Prop :=
  (∃ m, result = .ok m) ∨ result = .error .closed ∨
    ∃ fault, result = .error (.payload (.protocol fault))

theorem orderly_payload_iff (result : Except Message.PayloadFault Message) :
    Orderly (result.mapError .payload) ↔ Message.Orderly result := by
  cases result with
  | ok m => simp [Orderly, Message.Orderly, Except.mapError]
  | error fault => simp [Orderly, Message.Orderly, Except.mapError]

end Reader

namespace Frame

/-- Octets whose first frame has this header begin with one that baffles if that one does. -/
theorem begins_baffling_iff [Json.Depth] {head later : Bytes} {size : Nat}
    (hhead : head.length = headerSize)
    (hsize : lengthOf head = .ok size) :
    (∃ frame rest, head ++ later = frame ++ rest ∧ Baffles frame) ↔
      size ≤ later.length ∧ Baffles (head ++ later.take size) := by
  constructor
  · intro h
    obtain ⟨_, rest, happend, head', body, text, rfl, hhead', hbody, hbaffles⟩ := h
    rw [List.append_assoc] at happend
    obtain ⟨rfl, rfl⟩ := List.append_inj happend (hhead.trans hhead'.symm)
    obtain rfl : size = body.length := Except.ok.inj (hsize.symm.trans hbody)
    rw [List.take_left, List.length_append]
    exact ⟨Nat.le_add_right _ _, head, body, text, rfl, hhead, hbody, hbaffles⟩
  · intro h
    refine ⟨head ++ later.take size, later.drop size, ?_, h.2⟩
    rw [List.append_assoc, List.take_append_drop]

/-- **The first read of octets that end is orderly exactly unless they begin with a frame that
baffles.** -/
theorem first_orderly_iff [Json.Depth] (bytes : Bytes) :
    Reader.Orderly (first bytes).1 ↔ ¬ ∃ frame rest, bytes = frame ++ rest ∧ Baffles frame := by
  by_cases hshort : (bytes.take headerSize).length < headerSize
  · refine iff_of_true ?_ ?_
    · unfold first
      dsimp only
      rw [if_pos hshort]
      by_cases hempty : bytes.isEmpty = true
      · rw [if_pos hempty]
        exact .inr (.inl rfl)
      · rw [if_neg hempty]
        exact .inr (.inr ⟨_, rfl⟩)
    · intro h
      obtain ⟨_, rest, rfl, head, body, _, rfl, hhead, _⟩ := h
      rw [List.append_assoc, List.take_left' hhead] at hshort
      omega
  · obtain ⟨head, later, rfl, hhead⟩ : ∃ head later, bytes = head ++ later ∧
        head.length = headerSize :=
      ⟨_, _, (List.take_append_drop headerSize bytes).symm,
        le_antisymm (List.length_take_le _ _) (Nat.le_of_not_lt hshort)⟩
    cases hsize : lengthOf head with
    | error fault =>
      rw [first_eq hhead, hsize]
      refine iff_of_true (.inr (.inr ⟨fault, rfl⟩)) ?_
      intro h
      obtain ⟨_, rest, happend, head', body, _, rfl, hhead', hbody, _⟩ := h
      rw [List.append_assoc] at happend
      obtain ⟨rfl, _⟩ := List.append_inj happend (hhead.trans hhead'.symm)
      rw [hsize] at hbody
      cases hbody
    | ok size =>
      rw [first_of_header hhead hsize, begins_baffling_iff hhead hsize]
      by_cases hcut : later.length < size
      · rw [if_pos hcut]
        exact iff_of_true (.inr (.inr ⟨_, rfl⟩)) (fun h => absurd h.1 (Nat.not_le_of_lt hcut))
      · have hwhole : (later.take size).length = size := by
          rw [List.length_take]
          omega
        rw [if_neg hcut, Reader.orderly_payload_iff,
          baffles_append_iff hhead (hsize.trans (congrArg Except.ok hwhole.symm))]
        simp only [Nat.le_of_not_lt hcut, true_and, not_not]

end Frame

/-! ### All of it -/

/-- **Whatever is read is orderly exactly unless it baffles.**

* A text gives a message or a breach of the protocol, unless it is an object whose tag is a list or
  an object; whatever else stands in any field makes no difference.
* Octets that are to be one frame do so unless they are a whole frame of such a text.
* The first read of a stream that ends gives a message, the end of the stream or a breach of the
  protocol, unless the octets begin with such a frame: in whatever pieces they arrive, and whether
  the read begins before, between or after them. -/
theorem Frame.malformed_orderly_exactly [Json.Depth] (text : Text) (frame : List UInt8)
    (script : List Reader.Event) :
    (Message.Orderly (Message.parse text) ↔ ¬ Message.Baffles text) ∧
    (Message.Orderly (decode frame) ↔ ¬ Baffles frame) ∧
    (.finish ∉ script →
      ∃ result, (Reader.fresh.run (script ++ [.finish, .begin])).head? = some result ∧
        (Reader.Orderly result ↔
          ¬ ∃ frame rest, Reader.fed script = frame ++ rest ∧ Baffles frame)) := by
  refine ⟨Message.parse_orderly_iff text, decode_orderly_iff frame, fun hopen => ?_⟩
  refine ⟨_, ?_, first_orderly_iff (Reader.fed script)⟩
  obtain ⟨hrun, hmore⟩ := Reader.run_cut hopen 1
  rw [show script ++ [.finish, .begin] = script ++ .finish :: List.replicate 1 .begin from rfl,
    hrun]
  obtain ⟨n, hn⟩ := Nat.exists_eq_add_of_le' hmore
  rw [hn]
  rfl

/-- An object whose tag is an empty list. -/
def Json.listedTag : Json := .object [("type", .list [])]

theorem Message.baffles_listedTag [Json.Depth] : Baffles Json.listedTag.render := by
  refine ⟨[("type", .list [])], .list [], ?_, rfl, trivial⟩
  refine Json.parse_render_object [("type", .list [])] ?_
  intro m hm
  obtain rfl := List.mem_singleton.1 hm
  exact Json.reads_list _ Json.Depth.inner [] (by simp) (Nat.zero_le _)

/-- Its frame in two pieces, the read beginning between them: what comes of the read is not
orderly. -/
theorem Frame.listedTag_in_pieces :
    let payload := Json.listedTag.render.flatMap Utf8.octets
    let script : List Reader.Event := [.feed (header payload.length), .begin, .feed payload]
    .finish ∉ script ∧
      ∃ result, (Reader.fresh.run (script ++ [.finish, .begin])).head? = some result ∧
        ¬ Reader.Orderly result := by
  intro payload script
  have hopen : .finish ∉ script := by simp [script]
  have hsmall : payload.length = 12 := by decide
  have hsize : lengthOf (header payload.length) = .ok payload.length := by
    unfold lengthOf
    rw [declared_header (by omega)]
    exact if_neg (by rw [hsmall]; decide)
  have hscalar : Json.listedTag.render.all (fun c => ! c.isSurrogate) = true := by decide
  have hdecode : Utf8.decode payload = .ok Json.listedTag.render :=
    Utf8.decode_flatMap_octets _ (by simpa using hscalar)
  have hbaffles : Baffles (header payload.length ++ payload) :=
    ⟨_, _, _, rfl, header_length _, hsize, hdecode, Message.baffles_listedTag⟩
  have hfed : Reader.fed script = (header payload.length ++ payload) ++ [] := rfl
  obtain ⟨result, hresult, hiff⟩ := (malformed_orderly_exactly [] [] script).2.2 hopen
  refine ⟨hopen, result, hresult, fun horderly => ?_⟩
  exact hiff.1 horderly ⟨_, _, hfed, hbaffles⟩

/-- An object with an empty list for its tag is read neither as a message nor as a breach of the
protocol. -/
theorem Message.listedTag_not_orderly : ¬ Orderly (parse "\x7b\"type\": []\x7d") := by
  rw [parse_orderly_iff, not_not]
  exact baffles_listedTag

end ControlChannel
