import ControlChannel.Proofs.ClosedVariants

/-!
# Messages as they are built

A message is built from the value of its one field, which is refused unless it fits.  A text that fits
may hold any code points: quotes and control characters, which are escaped where they are written, and
surrogates, which are not and stand alone or side by side in whatever order.

* `Message.members_of_built` — the JSON form of a message holds what the message was built from;
* `Message.exists_built` — there is no message that cannot be built;
* `Message.survives_its_text` — **a message that was built is read back from its text as it was**, and
  no surrogate is merged with another or lost on the way.
-/

namespace ControlChannel

namespace Message

/-- The members of a message are its tag and the value that it was built from. -/
theorem members_of_built {tag : Tag} {field : Json} {m : Message}
    (hbuilt : ofField tag field = .ok m) :
    m.members = (("type" : Text), .str tag.name) :: tag.fieldNames.map fun name => (name, field) := by
  obtain ⟨rfl, hfield⟩ := ofField_eq_ok_iff.1 hbuilt
  rw [members, List.cons.injEq]
  refine ⟨rfl, ?_⟩
  cases m with
  | idRequest => rfl
  | idResponse pid => exact hfield "pid" List.mem_cons_self
  | args vector => exact hfield "args" List.mem_cons_self
  | packet text => exact hfield "text" List.mem_cons_self
  | closeSocket => rfl

/-- Every message is built from some value. -/
theorem exists_built (m : Message) : ∃ field, ofField m.tag field = .ok m := by
  cases m with
  | idRequest => exact ⟨.null, rfl⟩
  | idResponse pid => exact ⟨.int pid.val, map_eq_ok_iff.2 ⟨pid, pidOf_val pid, rfl⟩⟩
  | args vector =>
    exact ⟨.list (vector.map .str), map_eq_ok_iff.2 ⟨vector, argsOf_map_str vector, rfl⟩⟩
  | packet text => exact ⟨.str text, rfl⟩
  | closeSocket => exact ⟨.null, rfl⟩

/-- **A message is read back from its text as it was built.**

* Every message can be built, and its text is read as this message: the same process id, the same
  arguments in the same number and order, the same code points.
* The surrogates in its text are those of its arguments or of its packet, in their order: none is lost,
  and no two that stand side by side become one code point.
* What it was built from is the field that its text holds, beside the tag and nothing else. -/
theorem survives_its_text [Json.Depth] (m : Message) :
    ((∃ field, ofField m.tag field = .ok m) ∧ parse m.render = .ok m) ∧
      m.render.surrogates = m.texts.flatMap Text.surrogates ∧
      ∀ tag field, ofField tag field = .ok m →
        Json.parse m.render = .ok (.object
          (("type", .str tag.name) :: tag.fieldNames.map fun name => (name, field))) := by
  refine ⟨⟨exists_built m, parse_render m⟩, surrogates_render m, fun tag field hbuilt => ?_⟩
  rw [parse_render_json, toJson, members_of_built hbuilt]

/-- Arguments that hold both halves of a pair in either order, a quote, a backslash and a control
character, and nothing at all: they come back, and the pair is not taken for the character U+1F600. -/
theorem halves_survive :
    let m : Message := .args [[0xD83D, 0xDE00], [0xDE00, 0xD83D], ['"', '\\', 0x07], []]
    parse m.render = .ok m ∧ m.render.surrogates = [0xD83D, 0xDE00, 0xDE00, 0xD83D] ∧
      parse (args [[0x1F600], [0xDE00, 0xD83D], ['"', '\\', 0x07], []]).render ≠ .ok m := by
  intro m
  have hsurvives := survives_its_text m
  refine ⟨hsurvives.1.2, hsurvives.2.1, ?_⟩
  rw [(survives_its_text _).1.2]
  decide

end Message

end ControlChannel
