import ControlChannel.Proofs.MessageRoundTrip
import Mathlib.Data.List.Nodup

/-!
# Exactly the five messages are accepted

A text is read as a message if it holds an object with exactly the members of that message, in any
order and spelling, each of exactly its kind.

* `Json.parse_nodup` — the members of an object that was read have different names;
* `Message.ofMembers_eq_ok_iff`, `Message.ofJson_eq_ok_iff` — **nothing missing, nothing more and
  nothing coerced**;
* `Message.Spells` — the ways to write a message;
* `Message.parse_exactly` — a text is read as a message exactly if its object equals the form of
  that message, name by name; no way to write it matters.
-/

namespace ControlChannel

namespace Json

/-! ### Members have different names -/

theorem assign_nodup {members : List (Text × Json)} (h : (members.map (·.1)).Nodup) (name : Text)
    (value : Json) : ((assign members name value).map (·.1)).Nodup := by
  unfold assign
  by_cases hold : members.any (·.1 = name) = true
  · rw [if_pos hold, List.map_map]
    have hnames : ((·.1) ∘ fun member : Text × Json =>
        if member.1 = name then (name, value) else member) = (·.1) := by
      funext member
      by_cases hname : member.1 = name
      · simp [hname]
      · simp [hname]
    rw [hnames]
    exact h
  · rw [if_neg hold, List.map_append, List.map_singleton, List.nodup_append]
    refine ⟨h, List.nodup_singleton _, ?_⟩
    intro other hother last hlast
    obtain rfl := List.mem_singleton.1 hlast
    obtain ⟨member, hmember, rfl⟩ := List.mem_map.1 hother
    intro hname
    exact hold (List.any_eq_true.2 ⟨member, hmember, decide_eq_true hname⟩)

theorem settle_eq (written : List (Text × Json)) :
    settle written = written.foldl (fun members m => assign members m.1 m.2) [] := rfl

theorem settle_nodup (written : List (Text × Json)) : ((settle written).map (·.1)).Nodup := by
  rw [settle_eq]
  suffices h : ∀ members : List (Text × Json), (members.map (·.1)).Nodup →
      ((written.foldl (fun members m => assign members m.1 m.2) members).map (·.1)).Nodup from
    h [] List.nodup_nil
  induction written with
  | nil => exact fun members h => h
  | cons member written ih => exact fun members h => ih _ (assign_nodup h member.1 member.2)

/-- Members with different names stay as they were written. -/
theorem settle_of_nodup {members : List (Text × Json)} (h : (members.map (·.1)).Nodup) :
    settle members = members := by
  rw [settle_eq]
  suffices hfold : ∀ before : List (Text × Json), ((before ++ members).map (·.1)).Nodup →
      members.foldl (fun members m => assign members m.1 m.2) before = before ++ members from
    hfold [] h
  induction members with
  | nil => exact fun before _ => (List.append_nil before).symm
  | cons member members ih =>
    intro before hbefore
    have hfresh : ¬ before.any (·.1 = member.1) = true := by
      intro hold
      obtain ⟨other, hother, hname⟩ := List.any_eq_true.1 hold
      rw [List.map_append, List.nodup_append] at hbefore
      exact hbefore.2.2 other.1 (List.mem_map_of_mem hother) member.1 (by simp)
        (of_decide_eq_true hname)
    have hassign : assign before member.1 member.2 = before ++ [(member.1, member.2)] :=
      if_neg hfresh
    have happend : before ++ [(member.1, member.2)] ++ members = before ++ member :: members := by
      simp
    show members.foldl _ (assign before member.1 member.2) = _
    rw [hassign, ih (List.Nodup.of_cons (by simpa using h)) _ (by rw [happend]; exact hbefore),
      happend]

theorem number_ne_object {text rest : Text} {members : List (Text × Json)} :
    number text ≠ .ok (.object members, rest) := by
  intro h
  unfold number at h
  dsimp only at h
  split_ifs at h
  all_goals
    split at h
    all_goals cases h

theorem scalar_ne_object {text rest : Text} {members : List (Text × Json)} :
    scalar text ≠ .ok (.object members, rest) := by
  intro h
  unfold scalar at h
  dsimp only at h
  split at h
  · rename_i result hhit
    obtain ⟨⟨word, meaning⟩, hword, hmeaning⟩ := List.exists_of_findSome?_eq_some hhit
    obtain ⟨left, _, rfl⟩ := Option.map_eq_some_iff.1 hmeaning
    cases h
    simp [words] at hword
  · exact number_ne_object h

theorem value_nodup {fuel room : Nat} {text rest : Text} {members : List (Text × Json)}
    (h : value fuel room text = .ok (.object members, rest)) : (members.map (·.1)).Nodup := by
  rw [value.eq_def] at h
  cases text with
  | nil => cases h
  | cons c later =>
    dsimp only at h
    split_ifs at h with hquote hlist hobject
    · cases hread : stringBody (c :: later) [] later with
      | error fault =>
        rw [hread] at h
        cases h
      | ok outcome =>
        rw [hread] at h
        cases h
    · cases room with
      | zero => cases h
      | succ room =>
        dsimp only at h
        cases hread : enclosed (value fuel room) (CodePoint.ofChar ']') fuel later with
        | error fault =>
          rw [hread] at h
          cases h
        | ok outcome =>
          rw [hread] at h
          cases h
    · cases room with
      | zero => cases h
      | succ room =>
        dsimp only at h
        cases hread : enclosed (member (value fuel room)) (CodePoint.ofChar '}') fuel later with
        | error fault =>
          rw [hread] at h
          cases h
        | ok outcome =>
          rw [hread] at h
          cases h
          exact settle_nodup _
    · exact absurd h scalar_ne_object

/-- **The members of an object that was read have different names.** -/
theorem parse_nodup [Json.Depth] {text : Text} {members : List (Text × Json)}
    (h : parse text = .ok (.object members)) : (members.map (·.1)).Nodup := by
  unfold parse at h
  split_ifs at h
  split at h
  · cases h
  · rename_i result rest hvalue
    dsimp only at h
    split_ifs at h
    cases h
    exact value_nodup hvalue

/-! ### Looking members up -/

theorem member?_eq_some_iff {members : List (Text × Json)} (h : (members.map (·.1)).Nodup)
    {name : Text} {value : Json} : member? name members = some value ↔ (name, value) ∈ members := by
  induction members with
  | nil => simp [member?]
  | cons member members ih =>
    rw [List.map_cons, List.nodup_cons] at h
    obtain ⟨first, value'⟩ := member
    by_cases hname : first = name
    · subst hname
      have hfresh : ∀ other, (first, other) ∉ members :=
        fun other hother => h.1 (List.mem_map_of_mem (f := (·.1)) hother)
      simp [member?, hfresh, eq_comm]
    · have hother : member? name ((first, value') :: members) = member? name members := by
        simp [member?, hname]
      rw [hother, ih h.2]
      simp [Ne.symm hname]

/-- Members with different names are the same, in some order, if they are found to be. -/
theorem perm_iff_member? {members others : List (Text × Json)} (h : (members.map (·.1)).Nodup)
    (h' : (others.map (·.1)).Nodup) :
    members.Perm others ↔ ∀ name, member? name members = member? name others := by
  rw [List.perm_ext_iff_of_nodup (h.of_map _) (h'.of_map _)]
  constructor
  · intro hmem name
    refine Option.ext fun value => ?_
    rw [member?_eq_some_iff h, member?_eq_some_iff h', hmem]
  · rintro hfound ⟨name, value⟩
    rw [← member?_eq_some_iff h, ← member?_eq_some_iff h', hfound]

/-- Looking for a name among the members with other names than one. -/
theorem member?_filter (members : List (Text × Json)) (name without : Text) :
    member? name (members.filter (·.1 ≠ without))
      = if name = without then none else member? name members := by
  unfold member?
  rw [List.find?_filter]
  by_cases hname : name = without
  · rw [if_pos hname, Option.map_eq_none_iff, List.find?_eq_none]
    intro member _
    simp [hname]
  · rw [if_neg hname]
    congr 2
    funext member
    by_cases hmember : member.1 = name
    · simp [hmember, hname]
    · simp [hmember]

end Json

namespace Message

/-! ### The fields of each kind -/

theorem pidOf_eq_ok_iff {field : Json} {pid : Pid} :
    pidOf field = .ok pid ↔ field = .int pid.val := by
  constructor
  · intro h
    cases field with
    | int n =>
      by_cases hn : 0 ≤ n ∧ n.toNat < 0x100000000
      · rw [pidOf, dif_pos hn, Except.ok.injEq] at h
        rw [← h]
        congr 1
        have := hn.1
        simp [Int.toNat_of_nonneg this]
      · rw [pidOf, dif_neg hn] at h
        cases h
    | _ => cases h
  · rintro rfl
    exact pidOf_val pid

theorem argumentOf_eq_ok_iff {item : Json} {text : Text} :
    argumentOf item = .ok text ↔ item = .str text := by
  cases item <;> simp [argumentOf]

theorem argsOf_eq_ok_iff {field : Json} {vector : List Text} :
    argsOf field = .ok vector ↔ field = .list (vector.map .str) := by
  constructor
  · intro h
    cases field with
    | list items =>
      rw [argsOf] at h
      congr 1
      induction items generalizing vector with
      | nil =>
        cases h
        rfl
      | cons item items ih =>
        rw [List.mapM_cons] at h
        cases hitem : argumentOf item with
        | error fault =>
          rw [hitem] at h
          cases h
        | ok text =>
          rw [hitem] at h
          cases hitems : items.mapM argumentOf with
          | error fault =>
            rw [hitems] at h
            cases h
          | ok texts =>
            rw [hitems] at h
            cases h
            rw [List.map_cons, argumentOf_eq_ok_iff.1 hitem, ih hitems]
    | _ => cases h
  · rintro rfl
    exact argsOf_map_str vector

theorem packetOf_eq_ok_iff {field : Json} {text : Text} :
    packetOf field = .ok text ↔ field = .str text := by
  cases field <;> simp [packetOf]

theorem mapError_eq_ok_iff {α ε ε' : Type} {f : ε → ε'} {result : Except ε α} {x : α} :
    result.mapError f = .ok x ↔ result = .ok x := by
  cases result <;> simp [Except.mapError]

theorem map_eq_ok_iff {α β ε : Type} {f : α → β} {result : Except ε α} {y : β} :
    result.map f = .ok y ↔ ∃ x, result = .ok x ∧ f x = y := by
  cases result <;> simp [Except.map]

/-- Which field of a kind makes a message of it. -/
theorem ofField_eq_ok_iff {tag : Tag} {field : Json} {m : Message} :
    ofField tag field = .ok m ↔
      tag = m.tag ∧ ∀ name, name ∈ tag.fieldNames → m.fields = [(name, field)] := by
  cases tag with
  | idRequest => cases m <;> simp [ofField, Message.tag, Tag.fieldNames]
  | closeSocket => cases m <;> simp [ofField, Message.tag, Tag.fieldNames]
  | idResponse =>
    rw [ofField, map_eq_ok_iff]
    simp only [pidOf_eq_ok_iff]
    cases m <;> simp [Message.tag, Tag.fieldNames, fields, eq_comm]
  | args =>
    rw [ofField, map_eq_ok_iff]
    simp only [argsOf_eq_ok_iff]
    cases m <;> simp [Message.tag, Tag.fieldNames, fields, eq_comm]
  | packet =>
    rw [ofField, map_eq_ok_iff]
    simp only [packetOf_eq_ok_iff]
    cases m <;> simp [Message.tag, Tag.fieldNames, fields, eq_comm]

/-- The fields of a message have the names of its kind. -/
theorem names_fields (m : Message) : m.fields.map (·.1) = m.tag.fieldNames := by
  cases m <;> rfl

theorem length_fields_le (m : Message) : m.fields.length ≤ 1 := by
  cases m <;> simp [fields]

/-- **Members make a message exactly if they are its fields** under the name of its kind. -/
theorem ofMembers_eq_ok_iff {name : Text} {written : List (Text × Json)} {m : Message} :
    ofMembers name written = .ok m ↔ name = m.tag.name ∧ written = m.fields := by
  constructor
  · intro h
    unfold ofMembers at h
    cases htag : Tag.ofName? name with
    | none =>
      rw [htag] at h
      cases h
    | some tag =>
      rw [htag] at h
      dsimp only at h
      have hname : tag.name = name := by
        have hfound := List.find?_some htag
        exact of_decide_eq_true hfound
      by_cases hnames : written.map (·.1) = tag.fieldNames
      · rw [if_pos hnames, mapError_eq_ok_iff, ofField_eq_ok_iff] at h
        obtain ⟨rfl, hfields⟩ := h
        refine ⟨hname.symm, ?_⟩
        have hlength := length_fields_le m
        rw [← names_fields] at hnames hfields
        cases written with
        | nil => exact (List.map_eq_nil_iff.1 hnames.symm).symm
        | cons member written =>
          have hfield := hfields member.1 (by rw [← hnames]; simp)
          rw [hfield] at hnames ⊢
          obtain ⟨-, hnil⟩ := List.cons.inj hnames
          rw [List.map_eq_nil_iff.1 hnil]
          rfl
      · rw [if_neg hnames] at h
        cases h
  · rintro ⟨rfl, rfl⟩
    have hform := ofJson_toJson m
    cases m <;> exact hform

/-! ### Objects -/

/-- An object is a message exactly if its tag names the kind and its other members are the
fields. -/
theorem ofJson_object_eq_ok_iff {members : List (Text × Json)} {m : Message} :
    ofJson (.object members) = .ok m ↔
      Json.member? "type" members = some (.str m.tag.name) ∧
        members.filter (·.1 ≠ ("type" : Text)) = m.fields := by
  rw [ofJson]
  cases htag : Json.member? "type" members with
  | none => simp
  | some tag =>
    cases tag with
    | str name => simp [ofMembers_eq_ok_iff]
    | _ => simp

/-- The members of a message have different names. -/
theorem members_nodup (m : Message) : (m.members.map (·.1)).Nodup := by
  rw [members, List.map_cons, names_fields]
  cases m.tag <;> decide

/-- **An object is a message exactly if it has the same members**, in whatever order. -/
theorem ofJson_eq_ok_iff {members : List (Text × Json)} (h : (members.map (·.1)).Nodup)
    {m : Message} :
    ofJson (.object members) = .ok m ↔
      ∀ name, Json.member? name members = Json.member? name m.members := by
  have hrest : m.members.filter (·.1 ≠ ("type" : Text)) = m.fields := by
    cases m <;> rfl
  rw [ofJson_object_eq_ok_iff]
  constructor
  · rintro ⟨htag, hfields⟩ name
    by_cases hname : name = "type"
    · rw [hname, htag]
      rfl
    · have hmembers := Json.member?_filter members name "type"
      have hm := Json.member?_filter m.members name "type"
      rw [if_neg hname] at hmembers hm
      rw [← hmembers, ← hm, hfields, hrest]
  · intro hfound
    have hfilter : ((members.filter (·.1 ≠ ("type" : Text))).map (·.1)).Nodup :=
      h.sublist (List.Sublist.map _ List.filter_sublist)
    have hfields : (m.fields.map (·.1)).Nodup := (List.nodup_cons.1 (members_nodup m)).2
    have hperm : (members.filter (·.1 ≠ ("type" : Text))).Perm m.fields := by
      rw [Json.perm_iff_member? hfilter hfields]
      intro name
      rw [← hrest, Json.member?_filter, Json.member?_filter, hfound]
    refine ⟨hfound "type", ?_⟩
    -- there is at most one field, so that there is but one order
    cases m with
    | idRequest => exact List.perm_nil.1 hperm
    | idResponse pid => exact List.perm_singleton.1 hperm
    | args vector => exact List.perm_singleton.1 hperm
    | packet text => exact List.perm_singleton.1 hperm
    | closeSocket => exact List.perm_nil.1 hperm

/-- **A text is read as a message exactly if its object has the members of that message.** -/
theorem parse_eq_ok_iff [Json.Depth] {text : Text} {m : Message} :
    parse text = .ok m ↔ ∃ members, Json.parse text = .ok (.object members) ∧
      ∀ name, Json.member? name members = Json.member? name m.members := by
  unfold parse
  constructor
  · intro h
    cases hread : Json.parse text with
    | error error =>
      rw [hread] at h
      cases h
    | ok value =>
      rw [hread] at h
      cases value with
      | object members => exact ⟨members, rfl, (ofJson_eq_ok_iff (Json.parse_nodup hread)).1 h⟩
      | _ => cases h
  · rintro ⟨members, hread, hfound⟩
    rw [hread]
    exact (ofJson_eq_ok_iff (Json.parse_nodup hread)).2 hfound

/-! ### Spellings -/

/-- How a value may be written that a message holds. -/
inductive SpellsValue : Json → Text → Prop
  | text {text written : Text} (quoted : Json.SpellsQuoted text written) :
      SpellsValue (.str text) written
  | pid (pid : Pid) : SpellsValue (.int pid.val) (Text.ofNat pid.val)
  /-- Zero may have a sign. -/
  | minusZero : SpellsValue (.int 0) "-0"
  | texts {items : List Json} {inner : Text}
      (enclosed : Json.Enclosed (fun item written => ∃ text, item = .str text ∧
        Json.SpellsQuoted text written) items inner) :
      SpellsValue (.list items) (0x5B :: (inner ++ [0x5D]))

/-- How a message may be written: its members in any order, each spelled in any way, and blanks
around every token. -/
def Spells (m : Message) (text : Text) : Prop :=
  ∃ before members inner after, Json.Blanks before ∧ Json.Blanks after ∧
    members.Perm m.members ∧ Json.Enclosed (Json.SpellsMember SpellsValue) members inner ∧
    text = before ++ 0x7B :: (inner ++ 0x7D :: after)

theorem fits_spelledQuoted {item : Json} {written : Text} (fuel room : Nat)
    (h : ∃ text, item = .str text ∧ Json.SpellsQuoted text written) :
    Json.Fits (Json.value fuel room) (fun _ => written) ']' item := by
  obtain ⟨text, rfl, hquoted⟩ := h
  refine ⟨fun rest _ => Json.value_quoted hquoted fuel room rest, ?_⟩
  obtain ⟨inner, _, rfl⟩ := hquoted
  exact ⟨0x22, _, rfl, by decide, by decide⟩

theorem value_minusZero (fuel room : Nat) {rest : Text}
    (hrest : Json.continuesNumeral rest = false) :
    Json.value fuel room (("-0" : Text) ++ rest) = .ok (.int 0, rest) := by
  have hnumber : Json.value fuel room (("-0" : Text) ++ rest)
      = Json.number (("-0" : Text) ++ rest) := by
    rw [Json.value.eq_def]
    rfl
  have hwhole : Json.wholeDigits ((("-0" : Text) ++ rest).drop 1) = ([0x30], rest) := rfl
  have hminus : Text.startsWith (("-0" : Text) ++ rest) "-" = true := rfl
  rw [hnumber]
  unfold Json.number
  simp only [hminus, if_true, hwhole, Json.fraction_of_not_continues hrest,
    Json.exponent_of_not_continues hrest]
  rfl

/-- **Every way to write a value that a message holds is read as that value.** -/
theorem fits_spelledValue {value : Json} {written : Text} (h : SpellsValue value written)
    {fuel : Nat} (hfuel : written.length ≤ fuel) (room : Nat) :
    Json.Fits (Json.value fuel (room + 1)) (fun _ => written) ']' value := by
  cases h with
  | text quoted => exact fits_spelledQuoted fuel (room + 1) ⟨_, rfl, quoted⟩
  | pid pid =>
    have hread := Json.reads_ofNat fuel (room + 1) pid.val (length_ofNat_pid pid)
    have hfits := hread.fits
    rw [Json.render] at hfits
    exact hfits
  | minusZero =>
    exact ⟨fun rest hrest => value_minusZero fuel (room + 1) hrest, 0x2D, [0x30], rfl,
      by decide, by decide⟩
  | @texts items inner enclosed =>
    have hfit : ∀ item text, item ∈ items → (∃ t, item = .str t ∧ Json.SpellsQuoted t text) →
        Json.Fits (Json.value fuel room) (fun _ => text) ']' item :=
      fun item text _ htext => fits_spelledQuoted fuel room htext
    have hlength : items.length ≤ fuel := by
      have hinner := enclosed.length_le hfit
      rw [List.length_cons, List.length_append] at hfuel
      omega
    refine ⟨fun rest _ => ?_, 0x5B, _, rfl, by decide, by decide⟩
    rw [show 0x5B :: (inner ++ [0x5D]) ++ rest = 0x5B :: (inner ++ 0x5D :: rest) by simp]
    exact Json.value_spelledList enclosed hfit hlength rest

/-- **Every way to write a message is read as that message.** -/
theorem parse_of_spells [Json.Depth] {m : Message} {text : Text} (h : m.Spells text) :
    parse text = .ok m := by
  obtain ⟨before, members, inner, after, hbefore, hafter, hperm, henclosed, rfl⟩ := h
  have hnodup : (members.map (·.1)).Nodup := (hperm.map _).nodup_iff.2 (members_nodup m)
  have hinner : inner.length ≤ (before ++ 0x7B :: (inner ++ 0x7D :: after)).length := by
    simp only [List.length_append, List.length_cons]
    omega
  have hread := Json.parse_spelledObject hbefore hafter (henclosed.bounded_values hinner)
    fun _ _ _ hvalue => fits_spelledValue hvalue.1 hvalue.2 Json.Depth.inner
  rw [Json.settle_of_nodup hnodup] at hread
  exact parse_eq_ok_iff.2 ⟨members, hread, (Json.perm_iff_member? hnodup (members_nodup m)).1 hperm⟩

/-- **The five messages are accepted exactly.**

* A text is read as a message exactly if it holds an object that equals the JSON form of that
  message: the same names with the same values, where an integer is no double and no truth value.
* In which order its members stand, which blanks stand around its tokens and how its texts are
  escaped makes no difference. -/
theorem parse_exactly [Json.Depth] (text : Text) (m : Message) :
    (parse text = .ok m ↔ ∃ members, Json.parse text = .ok (.object members) ∧
      ∀ name, Json.member? name members = Json.member? name m.members) ∧
    (m.Spells text → parse text = .ok m) :=
  ⟨parse_eq_ok_iff, parse_of_spells⟩

/-- The tag stands last, blanks around the tokens, and both characters of the text are escaped. -/
theorem parse_scattered :
    let text : Text := "\n\x7b\"text\" : \"\\u0041\\/\", \"type\":\"packet\"\x7d "
    (packet "A/").Spells text ∧ parse text = .ok (packet "A/") := by
  intro text
  have hquad : Json.hexQuad? 0x30 0x30 0x34 0x31 = some 0x41 := by decide
  have hslash : Json.simpleEscape? 0x2F = some 0x2F := by decide
  have hescaped : Json.SpellsText "A/" "\\u0041\\/" :=
    Json.SpellsText.number hquad (fun high => absurd high (by decide)) (.letter hslash .nil)
  have htext : Json.SpellsMember SpellsValue ("text", .str "A/")
      "\"text\" : \"\\u0041\\/\"" :=
    ⟨_, [0x20], [0x20], _, Json.spellsQuoted_renderText "text", .space, .space,
      .text ⟨_, hescaped, rfl⟩, by decide⟩
  have htype : Json.SpellsMember SpellsValue ("type", .str "packet") "\"type\":\"packet\"" :=
    ⟨_, [], [], _, Json.spellsQuoted_renderText "type", .nil, .nil,
      .text (Json.spellsQuoted_renderText "packet"), by decide⟩
  have hlisted := Json.Enclosed.some Json.Blanks.nil
    (Json.Listed.more htext .nil .space (Json.Listed.last htype .nil))
  have hblank : Json.Blanks [0x0A] := by
    intro c hc
    rw [List.mem_singleton.1 hc]
    rfl
  have hspells : (packet "A/").Spells text :=
    ⟨[0x0A], _, _, [0x20], hblank, .space, List.Perm.swap _ _ _, hlisted, by decide⟩
  exact ⟨hspells, (parse_exactly text (packet "A/")).2 hspells⟩

end Message

end ControlChannel
