import ControlChannel.Proofs.BuiltInCommands
import ControlChannel.Proofs.ForwardedCommand
import ControlChannel.Proofs.LoadedSettings
import ControlChannel.Proofs.PlainWords
import Mathlib.Algebra.Order.BigOperators.Group.List

/-!
# Echoed words

* `Json.weight` — the octets of a text between its quotes; they add up along a text;
* `Frame.payload_echo_le` — **the answer to `echo` is never longer than the request**, whatever has
  to be escaped in it;
* `Surroundings.configure_allowsTime` — the settings that the variables give leave time to answer;
* `Service.echo_shows_words` — **`echo` shows its words as they are**, and its caller ends with
  status 0.
-/

namespace ControlChannel

/-! ### The octets of texts -/

/-- The octets that a text takes in UTF-8. -/
def Utf8.size (t : Text) : Nat := (t.flatMap octets).length

@[simp] theorem Utf8.size_append (s t : Text) : size (s ++ t) = size s + size t := by
  rw [size, List.flatMap_append, List.length_append, size, size]

/-- The first text has no separator in front of it, each other one does. -/
theorem Utf8.size_joined (separator first : Text) (others : List Text) :
    size (Text.joined separator (first :: others))
      = size first + (others.map fun text => size separator + size text).sum := by
  have hothers : size (others.foldr (fun text rest => separator ++ (text ++ rest)) [])
      = (others.map fun text => size separator + size text).sum := by
    induction others with
    | nil => rfl
    | cons text others ih =>
      rw [List.foldr_cons, size_append, size_append, ih, List.map_cons, List.sum_cons, Nat.add_assoc]
  rw [Text.joined, size_append, hothers]

namespace Json

/-- The octets that a text takes between the quotes of a JSON text. -/
def weight (t : Text) : Nat := Utf8.size (t.flatMap escape)

@[simp] theorem weight_append (s t : Text) : weight (s ++ t) = weight s + weight t := by
  rw [weight, List.flatMap_append, Utf8.size_append, weight, weight]

theorem size_renderText (t : Text) : Utf8.size (renderText t) = weight t + 2 := by
  have hquote : Utf8.size [0x22] = 1 := rfl
  rw [show renderText t = [0x22] ++ (t.flatMap escape ++ [0x22]) from rfl, Utf8.size_append,
    Utf8.size_append, hquote, weight]
  omega

/-- A space between two words is not escaped. -/
theorem weight_joined (first : Text) (others : List Text) :
    weight (Text.joined " " (first :: others))
      = weight first + (others.map fun word => 1 + weight word).sum := by
  have hspace : weight " " = 1 := by decide
  have hothers : weight (others.foldr (fun text rest => " " ++ (text ++ rest)) [])
      = (others.map fun word => 1 + weight word).sum := by
    induction others with
    | nil => rfl
    | cons word others ih =>
      rw [List.foldr_cons, weight_append, weight_append, ih, hspace, List.map_cons, List.sum_cons,
        Nat.add_assoc]
  rw [Text.joined, weight_append, hothers]

/-- Each digit of a numeral takes one octet. -/
theorem weight_ofNat (n : Nat) : weight (Text.ofNat n) = (Text.ofNat n).length := by
  have hdigit : ∀ c : CodePoint, c.isDigit = true → weight [c] = 1 := by
    rintro ⟨v, hv⟩ hc
    simp only [CodePoint.isDigit, Bool.and_eq_true, decide_eq_true_eq] at hc
    obtain ⟨hlow, hhigh⟩ := hc
    interval_cases v <;> rfl
  have hdigits := Text.ofNat_isDigit n
  generalize Text.ofNat n = numeral at hdigits
  induction numeral with
  | nil => rfl
  | cons c digits ih =>
    obtain ⟨hc, hrest⟩ := List.forall_mem_cons.1 hdigits
    rw [← List.singleton_append, weight_append, hdigit c hc, ih hrest, List.length_append]
    rfl

end Json

/-- The octets of a message with one field. -/
theorem Message.size_render {m : Message} {name : Text} {value : Json}
    (hfields : m.fields = [(name, value)]) :
    Utf8.size m.render
      = 18 + Json.weight m.tag.name + Json.weight name + Utf8.size value.render := by
  have htag : Utf8.size (Json.renderMember ("type", .str m.tag.name))
      = 10 + Json.weight m.tag.name := by
    rw [Json.renderMember, Utf8.size_append, Utf8.size_append, Json.render, Json.size_renderText,
      Json.size_renderText, show Json.weight "type" = 4 by decide,
      show Utf8.size ": " = 2 by decide]
    omega
  have hfield : Utf8.size (Json.renderMember (name, value))
      = 4 + Json.weight name + Utf8.size value.render := by
    rw [Json.renderMember, Utf8.size_append, Utf8.size_append, Json.size_renderText,
      show Utf8.size ": " = 2 by decide]
    dsimp only
    omega
  rw [Message.render, Message.toJson, Json.render, Json.renderMembers_eq_map, Message.members,
    hfields, Utf8.size_append, Utf8.size_append, List.map_cons, Utf8.size_joined, htag,
    List.map_singleton, List.map_singleton, List.sum_singleton, hfield,
    show Utf8.size "\x7b" = 1 by decide, show Utf8.size "\x7d" = 1 by decide,
    show Utf8.size ", " = 2 by decide]
  omega

namespace Frame

theorem length_payload_packet (text : Text) :
    (payload (.packet text)).length = 30 + Json.weight text := by
  show Utf8.size (Message.packet text).render = _
  rw [Message.size_render rfl, Json.render, Json.size_renderText,
    show Json.weight (Message.packet text).tag.name = 6 from rfl,
    show Json.weight "text" = 4 by decide]
  omega

theorem length_payload_args (first : Text) (others : List Text) :
    (payload (.args (first :: others))).length
      = 30 + Json.weight first + (others.map fun word => 4 + Json.weight word).sum := by
  have hitems : ∀ word ∈ others,
      ((fun text => Utf8.size ", " + Utf8.size text) ∘ Json.render ∘ Json.str) word
        = 4 + Json.weight word := by
    intro word _
    rw [Function.comp_apply, Function.comp_apply, Json.render, Json.size_renderText,
      show Utf8.size ", " = 2 by decide]
    omega
  show Utf8.size (Message.args (first :: others)).render = _
  rw [Message.size_render rfl, Json.render, Json.renderItems_eq_map, Utf8.size_append,
    Utf8.size_append, List.map_map, List.map_cons, Utf8.size_joined, List.map_map,
    Function.comp_apply, Json.render, Json.size_renderText, List.map_congr_left hitems,
    show Json.weight (Message.args (first :: others)).tag.name = 4 from rfl,
    show Json.weight "args" = 4 by decide, show Utf8.size "[" = 1 by decide,
    show Utf8.size "]" = 1 by decide]
  omega

/-- **The answer to `echo` is never longer than the request**: for each word the request has two
quotes, a comma and a space, and the answer one space at most. -/
theorem payload_echo_le (argv0 : Text) {words : List Text} (hne : words ≠ []) :
    (payload (.packet (Text.joined " " words ++ "\n"))).length
      ≤ (payload (.args (argv0 :: "echo" :: words))).length := by
  obtain ⟨first, others, rfl⟩ := List.exists_cons_of_ne_nil hne
  have hothers : (others.map fun word => 1 + Json.weight word).sum
      ≤ (others.map fun word => 4 + Json.weight word).sum :=
    List.sum_le_sum fun word _ => by omega
  rw [length_payload_packet, length_payload_args, Json.weight_append, Json.weight_joined,
    List.map_cons, List.map_cons, List.sum_cons, List.sum_cons,
    show Json.weight "\n" = 2 by decide, show Json.weight "echo" = 4 by decide]
  omega

end Frame

/-- No surrogate is in the answer to `echo` if none is in its words. -/
theorem isScalar_echo {words : List Text} (h : ∀ word ∈ words, ∀ c ∈ word, c.isSurrogate = false) :
    ∀ c ∈ (Text.joined " " words ++ "\n" : Text), c.isSurrogate = false := by
  have hwords : words.all Text.isScalar = true := by
    simpa [Text.isScalar] using h
  have htext : Text.isScalar (Text.joined " " words ++ "\n") = true := by
    rw [Text.isScalar_append, Text.isScalar_joined _ (by decide), hwords]
    rfl
  intro c hc
  simpa using List.all_eq_true.1 htext c hc

/-! ### Time to answer -/

/-- The time that a variable sets is never zero or below, as long as that for its absence is not. -/
theorem Environment.seconds_allowsTime (e : Environment) (name : Text) {absent : Double}
    (habsent : absent.isAtMostZero = false) : (e.seconds name absent).1.isAtMostZero = false := by
  unfold seconds
  dsimp only
  split
  · exact habsent
  · split
    · exact habsent
    · split_ifs with hvalue
      · exact habsent
      · exact Bool.eq_false_iff.2 hvalue

/-- **The settings that the variables give leave time** to send a request, to read one and to close
a connection. -/
theorem Surroundings.configure_allowsTime {s : Surroundings} {name? : Option Text} {config : Config}
    {notices : List Notice} (h : s.configure name? = .ok (config, notices)) :
    config.closeTimeout.isAtMostZero = false ∧ config.connectTimeout.isAtMostZero = false ∧
      config.requestTimeout.isAtMostZero = false := by
  have htwo : twoSeconds.isAtMostZero = false := by decide
  have hfive : fiveSeconds.isAtMostZero = false := by decide
  obtain ⟨hclose, hconnect, hrequest⟩ := configure_times h
  rw [hclose, hconnect, hrequest]
  exact ⟨Environment.seconds_allowsTime _ _ htwo, Environment.seconds_allowsTime _ _ hfive,
    Environment.seconds_allowsTime _ _ hfive⟩

/-- The settings of a program, with the times that are set when no variable sets them. -/
def Config.usual : Config where
  programName := "prog"
  socketPath := Path.ofText "ctl.sock"
  logLevel := "INFO"
  logFile := Path.ofText "prog.log"
  closeTimeout := twoSeconds
  connectTimeout := fiveSeconds
  requestTimeout := fiveSeconds

/-- Surroundings in which no variable is set and no file lies. -/
def Surroundings.bare : Surroundings where
  environment := []
  argv0 := "prog"
  temporary := "/tmp"
  ownHome := "/root"
  homes := []
  files := { entries := [] }

namespace Service

/-- **`echo` shows its words as they are.**  Take a service that the address leads to, and leaves
time to read a request and to close a connection, as configured settings always do.  For every first
word of a vector and every words to echo that begin with no dash, as long as the request has a frame:

* the answer, the words with a space between two of them and a line feed, has a frame, too;
* the service writes this one packet, and then the terminal message;
* the client shows just this text and is told the end;
* a call of the program that meets the service writes the text, and ends with status 0 once its
  stream has taken it, as every stream in UTF-8 does. -/
theorem echo_shows_words [ConsoleLibrary] (surroundings : Surroundings) (now patience : Instant)
    {s : Service} (hreaches : s.site.reaches = true)
    (hrequest : s.site.listener.settings.requestTimeout.isAtMostZero = false)
    (hclose : s.site.listener.settings.closeTimeout.isAtMostZero = false)
    (argv0 : Text) {words : List Text} (hne : words ≠ []) (hplain : ∀ word ∈ words, word.IsPlain)
    {frame : Bytes} (hframe : Frame.encode (.args (argv0 :: "echo" :: words)) = .ok frame) :
    let d := surroundings.controlDispatch now
    let argv : List Text := argv0 :: "echo" :: words
    let text : Text := Text.joined " " words ++ "\n"
    let request : Delivery := .ofMessages (Client.forwardRequest argv)
    (∃ answer, Frame.encode (.packet text) = .ok answer) ∧
      (s.site.listener.accept d request).1.frames = [.packet text, .closeSocket] ∧
      (s.visit surroundings now patience (.forward argv)).1
        = .relay { shown := [text], ending := .closed } ∧
      Charset.utf8.Takes text ∧
      ∀ (m m' : Machine) (screen : Screen) (e : Environment),
        m.converse s.site.address (Client.forwardRequest argv) = ((s.site.reach d request).1, m') →
        m.send screen e s.site.address argv
          = (screen.write text).map fun screen =>
              { exit := .status 0, screen, machine := m' } := by
  intro d argv text request
  obtain ⟨hscalar, hsize, -⟩ := (Frame.encode_eq_ok_iff _ _).1 hframe
  have hanswer : Frame.encode (.packet text)
      = .ok (Frame.header (Frame.payload (.packet text)).length ++ Frame.payload (.packet text)) := by
    refine (Frame.encode_eq_ok_iff _ _).2
      ⟨?_, (Frame.payload_echo_le argv0 hne).trans hsize, rfl⟩
    exact List.forall_mem_singleton.2 (isScalar_echo fun word hword c hc =>
      hscalar word (List.mem_cons_of_mem _ (List.mem_cons_of_mem _ hword)) c hc)
  have hread : d.read argv = .ok { command := .str "echo", text := some words } := by
    show (surroundings.readCommand argv).mapError Refusal.text = _
    rw [surroundings.readCommand_echo argv0 hne hplain]
    rfl
  have hspoken : (d.handle s.site.listener.facts
      { command := .str "echo", text := some words }).1.spoken = [text] := by
    show (ServiceState.sending [text] (.returned (.bool false))).spoken = _
    rw [ServiceState.spoken_sending, List.filter_singleton, hanswer]
    rfl
  obtain ⟨hwritten, hshown, -, hsent⟩ :=
    Site.forward_command d hreaches hrequest hclose hframe hread
  rw [hspoken] at hwritten hshown hsent
  refine ⟨⟨_, hanswer⟩, hwritten, congrArg Finding.relay hshown, ?_, ?_⟩
  · exact HandlerRun.takes_spoken (hspoken ▸ List.mem_singleton_self text)
  · intro m m' screen e hconverse
    rw [hsent m m' screen e hconverse, Screen.writeAll_singleton]

/-- A service that was launched with the usual settings where nothing lies yet. -/
def launched : Service := (ofConfig .usual 4242 (.whole 0) { files := { entries := [] } }).launch

/-- An empty word keeps its place between two spaces, and what is escaped on the way comes back as it
was. -/
theorem launched_echoes :
    (launched.visit .bare (.whole 7) (.whole 5)
        (.forward ["prog", "echo", "say", "", "\"hi\"\n"])).1
      = .relay { shown := ["say  \"hi\"\n\n"], ending := .closed } := by
  let words : List Text := ["say", "", "\"hi\"\n"]
  have hplain : ∀ word ∈ words, word.IsPlain := by decide
  have hframe : Frame.encode (.args ("prog" :: "echo" :: words))
      = .ok ((Frame.encode (.args ("prog" :: "echo" :: words))).toOption.getD []) := rfl
  exact (echo_shows_words .bare (.whole 7) (.whole 5) (s := launched) (by decide) (by decide)
    (by decide) "prog" (List.cons_ne_nil _ _) hplain hframe).2.2.1

end Service

end ControlChannel
