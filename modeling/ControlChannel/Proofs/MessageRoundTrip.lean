import ControlChannel.Message
import ControlChannel.Proofs.JsonRoundTrip

/-!
# Messages: parsing gives back what was rendered

* `Message.ofJson_toJson` — the JSON form of a message is the form of that message alone;
* `Message.parse_render` — **every message survives the way through its text**, surrogates that
  stand alone or side by side included;
* `Text.surrogates`, `Message.texts`, `Message.surrogates_render` — the texts that a message carries:
  **its rendered form holds their surrogates**, each where it stands and as it is;
* `Text.isScalar`, `Message.isScalar_render` — so it holds none exactly when none of them does.
-/

namespace ControlChannel

/-! ### Surrogates in written values -/

namespace Text

/-- The surrogates of a text, in order. -/
def surrogates (t : Text) : Text := t.filter (·.isSurrogate)

/-- Whether no surrogate is in a text. -/
def isScalar (t : Text) : Bool := t.all (! ·.isSurrogate)

theorem surrogates_append (s t : Text) : surrogates (s ++ t) = surrogates s ++ surrogates t :=
  List.filter_append _ _

theorem isScalar_eq (t : Text) : isScalar t = (surrogates t).isEmpty := by
  rw [Bool.eq_iff_iff, isScalar, surrogates, List.all_eq_true, List.isEmpty_iff,
    List.filter_eq_nil_iff]
  simp

theorem isScalar_append (s t : Text) : isScalar (s ++ t) = (isScalar s && isScalar t) :=
  List.all_append

/-- No surrogate is in some texts exactly when it is in none of them. -/
theorem all_isScalar (texts : List Text) :
    texts.all isScalar = (texts.flatMap surrogates).isEmpty := by
  rw [Bool.eq_iff_iff, List.all_eq_true, List.isEmpty_iff, List.flatMap_eq_nil_iff]
  simp [isScalar_eq]

theorem surrogates_joined (separator : Text) (hs : separator.surrogates = []) (texts : List Text) :
    (Text.joined separator texts).surrogates = texts.flatMap surrogates := by
  induction texts with
  | nil => rfl
  | cons first others ih =>
    cases others with
    | nil =>
      rw [show Text.joined separator [first] = first ++ [] from rfl, List.append_nil]
      simp
    | cons second others =>
      rw [Json.joined_cons_cons, surrogates_append, surrogates_append, hs, ih]
      rfl

theorem isScalar_joined (separator : Text) (hs : separator.surrogates = []) (texts : List Text) :
    isScalar (Text.joined separator texts) = texts.all isScalar := by
  rw [isScalar_eq, surrogates_joined separator hs, all_isScalar]

theorem surrogates_ofNat (n : Nat) : (Text.ofNat n).surrogates = [] := by
  rw [surrogates, List.filter_eq_nil_iff]
  intro c hc
  have hdigit := Text.ofNat_isDigit n c hc
  simp only [CodePoint.isDigit, Bool.and_eq_true, decide_eq_true_eq] at hdigit
  simp [CodePoint.isSurrogate]
  omega

theorem isScalar_ofNat (n : Nat) : isScalar (Text.ofNat n) = true := by
  rw [isScalar_eq, surrogates_ofNat]
  rfl

end Text

namespace Json

open Text

/-- What is written for a code point holds a surrogate exactly when it is one itself. -/
theorem surrogates_escape (c : CodePoint) : (escape c).surrogates = Text.surrogates [c] := by
  have hcontrol : ∀ n < 0x20, (("\\u" : Text) ++ Text.hex 4 n).surrogates = [] := by decide
  have hlow : c.val < 0x20 → Text.surrogates [c] = [] := by
    intro h
    simp [Text.surrogates, CodePoint.isSurrogate]
    omega
  unfold escape
  split_ifs with hquote hback hline hreturn htab hbell hfeed hunicode
  · rw [hquote]
    rfl
  · rw [hback]
    rfl
  · rw [hline]
    rfl
  · rw [hreturn]
    rfl
  · rw [htab]
    rfl
  · rw [hlow (by omega)]
    rfl
  · rw [hlow (by omega)]
    rfl
  · rw [hlow hunicode, hcontrol _ hunicode]
  · rfl

theorem surrogates_renderText (t : Text) : (renderText t).surrogates = t.surrogates := by
  have hbody : Text.surrogates (t.flatMap escape) = t.surrogates := by
    induction t with
    | nil => rfl
    | cons c t ih =>
      rw [List.flatMap_cons, surrogates_append, surrogates_escape, ih, ← surrogates_append]
      rfl
  rw [show renderText t = [0x22] ++ (t.flatMap escape ++ [0x22]) from rfl, surrogates_append,
    surrogates_append, hbody, show Text.surrogates [0x22] = [] from rfl, List.nil_append,
    List.append_nil]

theorem surrogates_render_texts (texts : List Text) :
    (list (texts.map str)).render.surrogates = texts.flatMap Text.surrogates := by
  have hitems : (texts.map str).map render = texts.map renderText := by
    rw [List.map_map]
    exact List.map_congr_left fun t _ => by rw [Function.comp, render]
  rw [render, renderItems_eq_map, hitems, surrogates_append, surrogates_append,
    surrogates_joined _ (by decide), List.flatMap_map, show Text.surrogates "[" = [] from rfl,
    show Text.surrogates "]" = [] from rfl, List.nil_append, List.append_nil]
  exact congrArg (texts.flatMap ·) (funext surrogates_renderText)

end Json

namespace Message

/-! ### The JSON form -/

theorem pidOf_val (pid : Pid) : pidOf (.int pid.val) = .ok pid := by
  have hpid : (0 : Int) ≤ (pid.val : Int) ∧ ((pid.val : Int)).toNat < 0x100000000 := by
    have := pid.isLt
    omega
  rw [pidOf, dif_pos hpid]
  rfl

theorem argsOf_map_str (vector : List Text) : argsOf (.list (vector.map .str)) = .ok vector := by
  show (vector.map Json.str).mapM argumentOf = .ok vector
  induction vector with
  | nil => rfl
  | cons text vector ih =>
    rw [List.map_cons, List.mapM_cons, ih]
    rfl

theorem settle_members (m : Message) : Json.settle m.members = m.members := by
  cases m <;> rfl

/-- The JSON form of a message is read as that message. -/
theorem ofJson_toJson (m : Message) : ofJson m.toJson = .ok m := by
  cases m with
  | idRequest => rfl
  | idResponse pid =>
    show ((pidOf (.int pid.val)).map idResponse).mapError PayloadFault.protocol = _
    rw [pidOf_val]
    rfl
  | args vector =>
    show ((argsOf (.list (vector.map .str))).map args).mapError PayloadFault.protocol = _
    rw [argsOf_map_str]
    rfl
  | packet text => rfl
  | closeSocket => rfl

/-! ### The text -/

/-- The numeral of a process id is short. -/
theorem length_ofNat_pid (pid : Pid) : (Text.ofNat pid.val).length ≤ Numeral.mostDigits := by
  have hpid : pid.val < 10 ^ 10 := Nat.lt_trans pid.isLt (by decide)
  have hlen : (Text.ofNat pid.val).length ≤ 10 := by
    rw [Text.ofNat, List.length_map]
    exact (Nat.length_toDigits_le_iff (by omega) (by omega)).2 hpid
  exact Nat.le_trans hlen (by decide)

/-- Each value of a rendered message reads back, where so many lists and objects may be open
beside the one around all of them. -/
theorem reads_members [Json.Depth] (m : Message) :
    ∀ member ∈ m.members, Json.Reads m.render.length (Json.Depth.inner + 1) member.2 := by
  intro member hmember
  obtain rfl | hfield := List.mem_cons.1 hmember
  · exact Json.reads_str _ _ _
  · cases m with
    | idRequest => cases hfield
    | idResponse pid =>
      obtain rfl := List.mem_singleton.1 hfield
      exact Json.reads_ofNat _ _ _ (length_ofNat_pid pid)
    | args vector =>
      obtain rfl := List.mem_singleton.1 hfield
      refine Json.reads_list _ Json.Depth.inner _ ?_ ?_
      · intro x hx
        obtain ⟨text, _, rfl⟩ := List.mem_map.1 hx
        exact Json.reads_str _ _ _
      · calc (vector.map Json.str).length
            ≤ (Json.list (vector.map .str)).render.length := by
              apply Json.length_le_render_list
              intro x hx
              obtain ⟨text, _, rfl⟩ := List.mem_map.1 hx
              exact Json.render_ne_nil _ (Json.reads_str 0 0 text)
          _ ≤ (args vector).render.length := Json.length_le_render_object_of_mem _ _ hmember
    | packet text =>
      obtain rfl := List.mem_singleton.1 hfield
      exact Json.reads_str _ _ _
    | closeSocket => cases hfield

/-- The text of a message holds its JSON form. -/
theorem parse_render_json [Json.Depth] (m : Message) : Json.parse m.render = .ok m.toJson := by
  rw [toJson, ← settle_members]
  exact Json.parse_render_object m.members (reads_members m)

/-- **Every message survives the way through its text.** -/
theorem parse_render [Json.Depth] (m : Message) : parse m.render = .ok m := by
  rw [parse, parse_render_json]
  exact ofJson_toJson m

/-- The texts that a message carries. -/
def texts : Message → List Text
  | args vector => vector
  | packet text => [text]
  | _ => []

/-- **The rendered form of a message holds the surrogates of its texts**: all of them, in their order,
and no other. -/
theorem surrogates_render (m : Message) :
    m.render.surrogates = m.texts.flatMap Text.surrogates := by
  have hobject : m.render.surrogates = m.members.flatMap fun member =>
      member.1.surrogates ++ member.2.render.surrogates := by
    rw [render, toJson, Json.render, Json.renderMembers_eq_map, Text.surrogates_append,
      Text.surrogates_append, Text.surrogates_joined _ (by decide), List.flatMap_map,
      show Text.surrogates "\x7b" = [] from rfl, show Text.surrogates "\x7d" = [] from rfl,
      List.nil_append, List.append_nil]
    refine congrArg (m.members.flatMap ·) (funext fun member => ?_)
    rw [Json.renderMember, Text.surrogates_append, Text.surrogates_append,
      Json.surrogates_renderText, show Text.surrogates ": " = [] from rfl, List.append_nil]
  have htag : ∀ tag : Tag, (Json.str tag.name).render.surrogates = [] := by
    intro tag
    rw [Json.render, Json.surrogates_renderText]
    cases tag <;> decide
  rw [hobject, members, List.flatMap_cons, htag, show Text.surrogates "type" = [] from rfl,
    List.nil_append, List.nil_append]
  cases m with
  | idRequest => rfl
  | idResponse pid =>
    have hpid : (Json.int pid.val).render.surrogates = [] := by
      rw [Json.render]
      exact Text.surrogates_ofNat pid.val
    rw [fields, List.flatMap_singleton, hpid]
    rfl
  | args vector =>
    rw [fields, List.flatMap_singleton, Json.surrogates_render_texts,
      show Text.surrogates "args" = [] from rfl, List.nil_append]
    rfl
  | packet text =>
    rw [fields, List.flatMap_singleton, Json.render, Json.surrogates_renderText,
      show Text.surrogates "text" = [] from rfl, List.nil_append, texts, List.flatMap_singleton]
  | closeSocket => rfl

/-- A surrogate is in the rendered form of a message exactly when it is in one of its texts. -/
theorem isScalar_render (m : Message) : Text.isScalar m.render = m.texts.all Text.isScalar := by
  rw [Text.isScalar_eq, surrogates_render, Text.all_isScalar]

end Message

end ControlChannel
