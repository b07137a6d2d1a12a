import ControlChannel.Json.Printer
import ControlChannel.Proofs.JsonSpelling
import ControlChannel.Proofs.Utf8RoundTrip
import Mathlib.Tactic.IntervalCases

/-!
# JSON: reading gives back what was written

What the writer of a kind wrote is one of the spellings that its reader takes, so that the pieces of
a written value can be read one after the other.

* `spellsText_cons`, `spellsQuoted_renderText` — one code point inside quotes, and a whole text;
* `value_ofNat` — a numeral, if what follows cannot continue it;
* `enclosed_joined`, `enclosed_members` — written items with commas between them;
* `reads_list`, `parse_render_object` — lists and objects.
-/

namespace ControlChannel

namespace CodePoint

theorem hexValue?_ofHexDigit : ∀ d < 16, (ofHexDigit d).hexValue? = some d := by decide

end CodePoint

namespace Text

/-! ### Numerals -/

theorem ofChar_isDigit {c : Char} (hc : c.isDigit = true) : (CodePoint.ofChar c).isDigit = true := by
  simp only [Char.isDigit, Bool.and_eq_true, decide_eq_true_eq, UInt32.le_iff_toNat_le] at hc
  rw [CodePoint.isDigit, Bool.and_eq_true]
  exact ⟨decide_eq_true hc.1, decide_eq_true hc.2⟩

theorem ofNat_isDigit (n : Nat) : ∀ c ∈ ofNat n, c.isDigit = true := by
  intro c hc
  obtain ⟨x, hx, rfl⟩ := List.mem_map.1 hc
  exact ofChar_isDigit (Nat.isDigit_of_mem_toDigits (by omega) (by omega) hx)

theorem ofNat_ne_nil (n : Nat) : ofNat n ≠ [] := by
  simp [ofNat]

/-- A numeral writes its number. -/
theorem digitsValue_ofNat (n : Nat) : digitsValue (ofNat n) = n := by
  calc digitsValue (ofNat n) = Nat.ofDigitChars 10 (Nat.toDigits 10 n) 0 := by
        rw [digitsValue, ofNat, List.foldl_map, Nat.ofDigitChars_eq_foldl]
        rfl
    _ = n := Nat.ofDigitChars_ten_toDigits

/-- A numeral begins with a zero only if it is the numeral of zero. -/
theorem ofNat_head (n : Nat) (hn : n ≠ 0) : ∀ c rest, ofNat n = c :: rest → c ≠ '0' := by
  induction n using Nat.strongRecOn with
  | ind n ih =>
    intro c rest h
    by_cases hlt : n < 10
    · rw [ofNat, Nat.toDigits_of_lt_base hlt, List.map_singleton, List.cons.injEq] at h
      rw [← h.1]
      interval_cases n <;> first | exact absurd rfl hn | decide
    · have hdiv : n / 10 ≠ 0 := by omega
      rw [ofNat, Nat.toDigits_of_base_le (by omega) (by omega), List.map_append] at h
      obtain ⟨d, ds, hd⟩ := List.exists_cons_of_ne_nil (ofNat_ne_nil (n / 10))
      rw [show (Nat.toDigits 10 (n / 10)).map CodePoint.ofChar = d :: ds from hd,
        List.cons_append, List.cons.injEq] at h
      rw [← h.1]
      exact ih (n / 10) (by omega) hdiv d ds hd

end Text

namespace Json

/-! ### Inside quotes -/

/-- Four hexadecimal digits write the number that they were made from. -/
theorem hexQuad?_digits {n : Nat} (hn : n < 0x10000) :
    hexQuad? (.ofHexDigit (n / 0x1000 % 16)) (.ofHexDigit (n / 0x100 % 16))
      (.ofHexDigit (n / 0x10 % 16)) (.ofHexDigit (n % 16)) = some n := by
  have hdigit : ∀ k, (CodePoint.ofHexDigit (k % 16)).hexValue? = some (k % 16) := fun k =>
    CodePoint.hexValue?_ofHexDigit _ (Nat.mod_lt _ (by omega))
  simp only [hexQuad?, hdigit, Option.bind_eq_bind, Option.bind_some, Option.pure_def]
  congr 1
  omega

/-- What is written for one code point spells it, whatever is written behind it. -/
theorem spellsText_cons (c : CodePoint) {text written : Text} (h : SpellsText text written) :
    SpellsText (c :: text) (escape c ++ written) := by
  have hval : ∀ {k : Nat}, c.val = k → c = CodePoint.ofNat k := by
    intro k hk
    rw [← hk]
    exact (CodePoint.ofNat_val c).symm
  unfold escape
  split_ifs with hquote hback hline hreturn htab hbell hfeed hcontrol
  · exact .letter (by rw [hquote]; rfl) h
  · exact .letter (by rw [hback]; rfl) h
  · exact .letter (by rw [hline]; rfl) h
  · exact .letter (by rw [hreturn]; rfl) h
  · exact .letter (by rw [htab]; rfl) h
  · exact .letter (by rw [hval hbell]; rfl) h
  · exact .letter (by rw [hval hfeed]; rfl) h
  · have hhigh : (CodePoint.ofNat c.val).isHighSurrogate = false := by
      rw [CodePoint.ofNat_val]
      simp [CodePoint.isHighSurrogate]
      omega
    have hspelled := SpellsText.number (hexQuad?_digits (show c.val < 0x10000 by omega))
      (fun high => by rw [hhigh] at high; cases high) h
    rw [CodePoint.ofNat_val] at hspelled
    have htext : ("\\u" : Text) ++ Text.hex 4 c.val ++ written
        = 0x5C :: 0x75 :: .ofHexDigit (c.val / 0x1000 % 16) :: .ofHexDigit (c.val / 0x100 % 16)
          :: .ofHexDigit (c.val / 0x10 % 16) :: .ofHexDigit (c.val % 16) :: written := by
      simp [Text.hex, List.range_succ]
      rfl
    rw [htext]
    exact hspelled
  · exact .plain hquote hback (Nat.le_of_not_lt hcontrol) h

/-- **What is written for a text is one of its spellings.**  Nothing is merged: two surrogates side
by side stay two. -/
theorem spellsQuoted_renderText (text : Text) : SpellsQuoted text (renderText text) := by
  refine ⟨text.flatMap escape, ?_, rfl⟩
  induction text with
  | nil => exact .nil
  | cons c text ih => exact spellsText_cons c ih

/-! ### Numbers -/

theorem takeWhile_digits {digits rest : Text} (hd : ∀ c ∈ digits, c.isDigit = true)
    (hrest : continuesNumeral rest = false) :
    (digits ++ rest).takeWhile (·.isDigit) = digits ∧
      (digits ++ rest).dropWhile (·.isDigit) = rest := by
  have hstop : rest.takeWhile (·.isDigit) = [] ∧ rest.dropWhile (·.isDigit) = rest := by
    cases rest with
    | nil => exact ⟨rfl, rfl⟩
    | cons c rest =>
      simp only [continuesNumeral, Bool.or_eq_false_iff] at hrest
      simp [hrest.1.1.1]
  rw [List.takeWhile_append_of_pos hd, List.dropWhile_append_of_pos hd, hstop.1, hstop.2,
    List.append_nil]
  exact ⟨rfl, rfl⟩

theorem wholeDigits_ofNat (n : Nat) {rest : Text} (hrest : continuesNumeral rest = false) :
    wholeDigits (Text.ofNat n ++ rest) = (Text.ofNat n, rest) := by
  by_cases hn : n = 0
  · subst hn
    rfl
  · obtain ⟨c, ds, hc⟩ := List.exists_cons_of_ne_nil (Text.ofNat_ne_nil n)
    have hzero : c ≠ '0' := Text.ofNat_head n hn c ds hc
    have hsplit := takeWhile_digits (Text.ofNat_isDigit n) hrest
    rw [hc] at hsplit ⊢
    show (if c = '0' then _ else _) = _
    rw [if_neg hzero]
    exact Prod.ext hsplit.1 hsplit.2

theorem fraction_of_not_continues {rest : Text} (hrest : continuesNumeral rest = false) :
    fraction rest = ([], rest) := by
  cases rest with
  | nil => rfl
  | cons c rest =>
    simp only [continuesNumeral, Bool.or_eq_false_iff, decide_eq_false_iff_not] at hrest
    simp [fraction, hrest.1.1.2]

theorem exponent_of_not_continues {rest : Text} (hrest : continuesNumeral rest = false) :
    exponent rest = (none, rest) := by
  cases rest with
  | nil => rfl
  | cons c rest =>
    simp only [continuesNumeral, Bool.or_eq_false_iff, decide_eq_false_iff_not] at hrest
    simp [exponent, hrest.1.2, hrest.2]

/-- A text that begins with a digit is read as a number. -/
theorem value_of_digit {c : CodePoint} (hc : c.isDigit = true) (fuel room : Nat) (rest : Text) :
    value fuel room (c :: rest) = number (c :: rest) := by
  have hten : ∀ d < 10, value fuel room (CodePoint.ofDigit d :: rest)
      = number (CodePoint.ofDigit d :: rest) := by
    intro d hd
    rw [value.eq_def]
    interval_cases d <;> rfl
  simp only [CodePoint.isDigit, Bool.and_eq_true, decide_eq_true_eq] at hc
  have hval : CodePoint.ofDigit (c.val - 0x30) = c := by
    rw [CodePoint.ofDigit, show 0x30 + (c.val - 0x30) = c.val by omega, CodePoint.ofNat_val]
  rw [← hval]
  exact hten _ (by omega)

/-- **A numeral is read as its number**, if it is not too long and what follows cannot
continue it. -/
theorem value_ofNat (n fuel room : Nat) {rest : Text}
    (hlen : (Text.ofNat n).length ≤ Numeral.mostDigits) (hrest : continuesNumeral rest = false) :
    value fuel room (Text.ofNat n ++ rest) = .ok (.int n, rest) := by
  obtain ⟨c, ds, hc⟩ := List.exists_cons_of_ne_nil (Text.ofNat_ne_nil n)
  have hdigit : c.isDigit = true := Text.ofNat_isDigit n c (by simp [hc])
  have hminus : Text.startsWith (Text.ofNat n ++ rest) "-" = false := by
    have hne : CodePoint.ofChar '-' ≠ c := by
      rintro rfl
      exact absurd hdigit (by decide)
    rw [hc]
    show (if CodePoint.ofChar '-' = c then _ else none : Option Text).isSome = false
    rw [if_neg hne]
    rfl
  have hsome : (Text.ofNat n).isEmpty = false := by rw [hc]; rfl
  have hread : number (Text.ofNat n ++ rest) = .ok (.int n, rest) := by
    unfold number
    simp only [hminus, Bool.false_eq_true, if_false, wholeDigits_ofNat n hrest, hsome,
      fraction_of_not_continues hrest, exponent_of_not_continues hrest, List.isEmpty_nil,
      Bool.not_true, Text.digitsValue_ofNat]
    rw [if_neg (Nat.not_lt.2 hlen)]
  rw [← hread, hc, List.cons_append]
  exact value_of_digit hdigit fuel room _

/-! ### Lists and objects -/

theorem joined_cons_cons (separator first second : Text) (others : List Text) :
    Text.joined separator (first :: second :: others)
      = first ++ (separator ++ Text.joined separator (second :: others)) := by
  simp [Text.joined]

theorem listed_joined {α : Type} (write : α → Text) (x : α) (xs : List α) :
    Listed (fun x text => text = write x) (x :: xs) (Text.joined ", " ((x :: xs).map write)) := by
  induction xs generalizing x with
  | nil => exact .last rfl .nil
  | cons y xs ih =>
    rw [List.map_cons, List.map_cons, joined_cons_cons]
    exact @Listed.more _ (fun x text => text = write x) x (write x) [] [0x20] _ _ rfl .nil .space
      (ih y)

/-- Written items with commas between them are one of the ways to list them. -/
theorem enclosed_joined {α : Type} (write : α → Text) (xs : List α) :
    Enclosed (fun x text => text = write x) xs (Text.joined ", " (xs.map write)) := by
  cases xs with
  | nil => exact .none .nil
  | cons x xs =>
    have hsome := Enclosed.some Blanks.nil (listed_joined write x xs)
    exact hsome

/-- What is written of a value reads back with so much room. -/
def Reads (fuel room : Nat) (v : Json) : Prop := Fits (value fuel room) render ']' v

/-- The same, for what is written as one of the ways to write it. -/
theorem Reads.fits {fuel room : Nat} {v : Json} (h : Reads fuel room v) :
    Fits (value fuel room) (fun _ => v.render) ']' v := ⟨h.read, h.head⟩

theorem reads_str (fuel room : Nat) (text : Text) : Reads fuel room (.str text) where
  read rest _ := by
    rw [render]
    exact value_quoted (spellsQuoted_renderText text) fuel room rest
  head := ⟨0x22, _, by rw [render]; rfl, by decide, by decide⟩

theorem reads_ofNat (fuel room n : Nat) (hlen : (Text.ofNat n).length ≤ Numeral.mostDigits) :
    Reads fuel room (.int n) where
  read rest hrest := by
    rw [render]
    exact value_ofNat n fuel room hlen hrest
  head := by
    obtain ⟨c, ds, hc⟩ := List.exists_cons_of_ne_nil (Text.ofNat_ne_nil n)
    have hdigit : c.isDigit = true := Text.ofNat_isDigit n c (by simp [hc])
    refine ⟨c, ds, by rw [render]; exact hc, ?_, ?_⟩
    · simp only [CodePoint.isDigit, Bool.and_eq_true, decide_eq_true_eq] at hdigit
      simp only [isBlank, Bool.or_eq_false_iff, decide_eq_false_iff_not]
      refine ⟨⟨⟨?_, ?_⟩, ?_⟩, ?_⟩ <;> rintro rfl <;> exact absurd hdigit (by decide)
    · rintro rfl
      exact absurd hdigit (by decide)

theorem renderItems_eq_map (items : List Json) : renderItems items = items.map render := by
  induction items with
  | nil => rfl
  | cons item items ih => rw [renderItems, ih, List.map_cons]

theorem reads_list (fuel room : Nat) (xs : List Json) (hxs : ∀ x ∈ xs, Reads fuel room x)
    (hfuel : xs.length ≤ fuel) : Reads fuel (room + 1) (.list xs) where
  read rest _ := by
    have htext : (Json.list xs).render ++ rest
        = 0x5B :: (Text.joined ", " (xs.map render) ++ 0x5D :: rest) := by
      rw [render, renderItems_eq_map, List.append_assoc, List.append_assoc]
      rfl
    rw [htext]
    refine value_spelledList (enclosed_joined render xs) ?_ hfuel rest
    rintro x _ hx rfl
    exact (hxs x hx).fits
  head := ⟨0x5B, Text.joined ", " (renderItems xs) ++ "]", by rw [render]; rfl, by decide, by decide⟩

/-- The written form of a member: its name, a colon and its value. -/
def renderMember (m : Text × Json) : Text := renderText m.1 ++ ": " ++ m.2.render

theorem renderMembers_eq_map (members : List (Text × Json)) :
    renderMembers members = members.map renderMember := by
  induction members with
  | nil => rfl
  | cons m members ih => rw [renderMembers, ih, List.map_cons, renderMember]

/-- Written members with commas between them are one of the ways to list them. -/
theorem enclosed_members (members : List (Text × Json)) :
    Enclosed (SpellsMember fun v text => text = v.render) members
      (Text.joined ", " (members.map renderMember)) := by
  refine (enclosed_joined renderMember members).mono ?_
  rintro m _ rfl
  exact ⟨_, [], [0x20], _, spellsQuoted_renderText m.1, .nil, .space, rfl, List.append_assoc _ _ _⟩

/-! ### Whole texts -/

theorem length_le_joined (separator : Text) (texts : List Text) (htexts : ∀ t ∈ texts, t ≠ []) :
    texts.length ≤ (Text.joined separator texts).length := by
  induction texts with
  | nil => exact Nat.zero_le _
  | cons first others ih =>
    have hfirst : 0 < first.length := List.length_pos_iff.2 (htexts first (by simp))
    have hothers := ih fun t ht => htexts t (by simp [ht])
    cases others with
    | nil =>
      rw [show Text.joined separator [first] = first ++ [] from rfl, List.append_nil]
      exact hfirst
    | cons second others =>
      rw [joined_cons_cons, List.length_append, List.length_append, List.length_cons]
      omega

theorem length_le_joined_of_mem (separator : Text) (texts : List Text) :
    ∀ t ∈ texts, t.length ≤ (Text.joined separator texts).length := by
  induction texts with
  | nil =>
    intro t ht
    cases ht
  | cons first others ih =>
    intro t ht
    cases others with
    | nil =>
      obtain rfl := List.mem_singleton.1 ht
      rw [show Text.joined separator [t] = t ++ [] from rfl, List.append_nil]
    | cons second others =>
      rw [joined_cons_cons, List.length_append, List.length_append]
      obtain rfl | hlater := List.mem_cons.1 ht
      · omega
      · have := ih t hlater
        omega

theorem render_ne_nil (v : Json) {fuel room : Nat} (hv : Reads fuel room v) : v.render ≠ [] := by
  obtain ⟨c, tail, hw, _⟩ := hv.head
  rw [hw]
  exact List.cons_ne_nil c tail

theorem length_le_render_list (items : List Json) (hitems : ∀ x ∈ items, x.render ≠ []) :
    items.length ≤ (list items).render.length := by
  have hjoined := length_le_joined ", " (items.map render) (by simpa using hitems)
  rw [List.length_map] at hjoined
  rw [render, renderItems_eq_map, List.length_append, List.length_append]
  omega

theorem length_le_render_object_of_mem (members : List (Text × Json)) (m : Text × Json)
    (hm : m ∈ members) : m.2.render.length ≤ (object members).render.length := by
  have hjoined := length_le_joined_of_mem ", " (members.map renderMember) (renderMember m)
    (List.mem_map_of_mem hm)
  rw [renderMember, List.length_append, List.length_append] at hjoined
  rw [render, renderMembers_eq_map, List.length_append, List.length_append]
  omega

/-- **A written object is read back as a whole text**, with its members settled. -/
theorem parse_render_object [Depth] (members : List (Text × Json))
    (hmembers : ∀ m ∈ members, Reads (object members).render.length (Depth.inner + 1) m.2) :
    parse (object members).render = .ok (.object (settle members)) := by
  have htext : (object members).render
      = [] ++ 0x7B :: (Text.joined ", " (members.map renderMember) ++ 0x7D :: []) := by
    rw [render, renderMembers_eq_map, List.append_assoc]
    rfl
  rw [htext] at hmembers ⊢
  refine parse_spelledObject .nil .nil (enclosed_members members) ?_
  rintro m _ hm rfl
  exact (hmembers m hm).fits

end Json

end ControlChannel
