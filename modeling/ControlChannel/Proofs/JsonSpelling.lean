import ControlChannel.Json.Parser

/-!
# Spellings of JSON

One value may be written in many ways: with blanks between its tokens, and with each character of a
text as itself or as an escape.  A reader takes every one of them and leaves what follows.

* `Json.SpellsText`, `Json.SpellsQuoted` — how a text may be written between its quotes.  An escaped
  surrogate pair is one character, so that **an escaped high surrogate stands alone only where no
  escaped low one follows**;
* `Json.Listed`, `Json.Enclosed` — how items may be written between two brackets;
* `Json.stringBody_spelled`, `Json.enclosed_spelled` — the readers take them.
-/

namespace ControlChannel

namespace Json

/-! ### Texts -/

/-- What is written begins with an escaped low surrogate. -/
def BeginsLow (written : Text) : Prop :=
  ∃ l₁ l₂ l₃ l₄ m rest, written = 0x5C :: 0x75 :: l₁ :: l₂ :: l₃ :: l₄ :: rest ∧
    hexQuad? l₁ l₂ l₃ l₄ = some m ∧ (CodePoint.ofNat m).isLowSurrogate = true

/-- How a text may be written between quotes. -/
inductive SpellsText : Text → Text → Prop
  | nil : SpellsText [] []
  /-- A character may stand for itself. -/
  | plain {c : CodePoint} {text written : Text} (quote : c ≠ '"') (backslash : c ≠ '\\')
      (control : 0x20 ≤ c.val) (later : SpellsText text written) :
      SpellsText (c :: text) (c :: written)
  /-- Some have an escape of one letter. -/
  | letter {e c : CodePoint} {text written : Text} (meaning : simpleEscape? e = some c)
      (later : SpellsText text written) : SpellsText (c :: text) (0x5C :: e :: written)
  /-- Those of the first plane may be written by number. -/
  | number {h₁ h₂ h₃ h₄ : CodePoint} {n : Nat} {text written : Text}
      (quad : hexQuad? h₁ h₂ h₃ h₄ = some n)
      (alone : (CodePoint.ofNat n).isHighSurrogate = true → ¬ BeginsLow written)
      (later : SpellsText text written) :
      SpellsText (.ofNat n :: text) (0x5C :: 0x75 :: h₁ :: h₂ :: h₃ :: h₄ :: written)
  /-- Those beyond it may be written as the numbers of a surrogate pair. -/
  | pair {h₁ h₂ h₃ h₄ l₁ l₂ l₃ l₄ : CodePoint} {n m : Nat} {text written : Text}
      (first : hexQuad? h₁ h₂ h₃ h₄ = some n) (high : (CodePoint.ofNat n).isHighSurrogate = true)
      (second : hexQuad? l₁ l₂ l₃ l₄ = some m) (low : (CodePoint.ofNat m).isLowSurrogate = true)
      (later : SpellsText text written) :
      SpellsText (joinSurrogates n m :: text)
        (0x5C :: 0x75 :: h₁ :: h₂ :: h₃ :: h₄ ::
          0x5C :: 0x75 :: l₁ :: l₂ :: l₃ :: l₄ :: written)

theorem high_not_low {c : CodePoint} (h : c.isHighSurrogate = true) : c.isLowSurrogate = false := by
  simp only [CodePoint.isHighSurrogate, CodePoint.isLowSurrogate, Bool.and_eq_true,
    decide_eq_true_eq] at h ⊢
  simp only [Bool.and_eq_false_iff, decide_eq_false_iff_not]
  omega

/-- An escape by number, as the look ahead sees it. -/
theorem lowSurrogate?_unicode {l₁ l₂ l₃ l₄ : CodePoint} {m : Nat}
    (quad : hexQuad? l₁ l₂ l₃ l₄ = some m) (next : CodePoint) (after : Text) :
    lowSurrogate? (0x5C :: 0x75 :: l₁ :: l₂ :: l₃ :: l₄ :: next :: after)
      = .ok (if (CodePoint.ofNat m).isLowSurrogate then some m else none) := by
  unfold lowSurrogate?
  dsimp only
  rw [if_pos (by decide), quad]

/-- No escape by number is seen where there is none. -/
theorem lowSurrogate?_other {text : Text}
    (h : ∀ rest, text ≠ 0x5C :: 0x75 :: rest) : lowSurrogate? text = .ok none := by
  unfold lowSurrogate?
  split
  · rename_i b u l₁ l₂ l₃ l₄ next after
    have hother : ¬ ((b = '\\' && u = 'u') = true) := by
      intro hboth
      rw [Bool.and_eq_true, decide_eq_true_eq, decide_eq_true_eq] at hboth
      obtain ⟨rfl, rfl⟩ := hboth
      exact h _ rfl
    rw [if_neg hother]
  · rfl

/-- Something follows what is written of a text. -/
theorem exists_next (written rest : Text) :
    ∃ next after, written ++ 0x22 :: rest = next :: after :=
  List.exists_cons_of_ne_nil (by simp)

/-- **Behind an escaped high surrogate, no low one is seen unless one is written there.** -/
theorem lowSurrogate?_spelled {text written : Text} (h : SpellsText text written)
    (alone : ¬ BeginsLow written) (rest : Text) :
    lowSurrogate? (written ++ 0x22 :: rest) = .ok none := by
  cases h with
  | nil => exact lowSurrogate?_other (by simp)
  | plain quote backslash control later =>
    refine lowSurrogate?_other fun rest h => backslash ?_
    exact (List.cons.inj h).1
  | @letter e c text written meaning later =>
    refine lowSurrogate?_other fun rest h => ?_
    obtain rfl : e = 0x75 := (List.cons.inj (List.cons.inj h).2).1
    rw [show simpleEscape? 0x75 = none by decide] at meaning
    cases meaning
  | @number h₁ h₂ h₃ h₄ n text written quad _ later =>
    obtain ⟨next, after, hnext⟩ := exists_next written rest
    have hread := lowSurrogate?_unicode quad next after
    rw [← hnext] at hread
    have hlow : ¬ (CodePoint.ofNat n).isLowSurrogate = true :=
      fun hlow => alone ⟨_, _, _, _, n, _, rfl, quad, hlow⟩
    rw [if_neg hlow] at hread
    exact hread
  | @pair h₁ h₂ h₃ h₄ l₁ l₂ l₃ l₄ n m text written first high second low later =>
    have hread := lowSurrogate?_unicode first 0x5C
      (0x75 :: l₁ :: l₂ :: l₃ :: l₄ :: (written ++ 0x22 :: rest))
    rw [high_not_low high, if_neg Bool.false_ne_true] at hread
    exact hread

/-- **Whatever way a text is written, it is read up to its closing quote.** -/
theorem stringBody_spelled {text written : Text} (h : SpellsText text written)
    (opened rest : Text) : ∀ done, stringBody opened done (written ++ 0x22 :: rest)
      = .ok (done.reverse ++ text, rest) := by
  induction h with
  | nil =>
    intro done
    rw [List.nil_append, stringBody.eq_def, List.append_nil]
    dsimp only
    rw [if_pos (by decide)]
  | @plain c text written quote backslash control later ih =>
    intro done
    rw [List.cons_append, stringBody.eq_def]
    dsimp only
    rw [if_neg quote, if_neg backslash, if_neg (Nat.not_lt.2 control), ih]
    simp
  | @letter e c text written meaning later ih =>
    intro done
    rw [List.cons_append, List.cons_append, stringBody.eq_def]
    dsimp only
    rw [if_neg (by decide), if_pos (by decide), meaning]
    dsimp only
    rw [ih]
    simp
  | @number h₁ h₂ h₃ h₄ n text written quad alone later ih =>
    intro done
    obtain ⟨next, after, hnext⟩ := exists_next written rest
    have hahead : (if (CodePoint.ofNat n).isHighSurrogate then lowSurrogate? (next :: after)
        else .ok none) = .ok none := by
      by_cases high : (CodePoint.ofNat n).isHighSurrogate = true
      · rw [if_pos high, ← hnext]
        exact lowSurrogate?_spelled later (alone high) rest
      · rw [if_neg high]
    show stringBody opened done
      (0x5C :: 0x75 :: h₁ :: h₂ :: h₃ :: h₄ :: (written ++ 0x22 :: rest)) = _
    rw [hnext, stringBody.eq_def]
    dsimp only
    rw [if_neg (by decide), if_pos (by decide), show simpleEscape? 0x75 = none by decide]
    dsimp only
    rw [if_pos (by decide), quad]
    dsimp only
    rw [hahead]
    dsimp only
    rw [← hnext, ih]
    simp
  | @pair h₁ h₂ h₃ h₄ l₁ l₂ l₃ l₄ n m text written first high second low later ih =>
    intro done
    obtain ⟨next, after, hnext⟩ := exists_next written rest
    have hahead := lowSurrogate?_unicode second next after
    rw [low, if_pos rfl] at hahead
    show stringBody opened done (0x5C :: 0x75 :: h₁ :: h₂ :: h₃ :: h₄ :: 0x5C ::
      0x75 :: l₁ :: l₂ :: l₃ :: l₄ :: (written ++ 0x22 :: rest)) = _
    rw [hnext, stringBody.eq_def]
    dsimp only
    rw [if_neg (by decide), if_pos (by decide), show simpleEscape? 0x75 = none by decide]
    dsimp only
    rw [if_pos (by decide), first]
    dsimp only
    rw [if_pos high, hahead]
    dsimp only
    rw [← hnext, ih]
    simp

/-- How a text may be written, quotes included. -/
def SpellsQuoted (text written : Text) : Prop :=
  ∃ inner, SpellsText text inner ∧ written = 0x22 :: (inner ++ [0x22])

/-- A text between quotes is read as that text, whatever follows it. -/
theorem value_quoted {text written : Text} (h : SpellsQuoted text written) (fuel room : Nat)
    (rest : Text) : value fuel room (written ++ rest) = .ok (.str text, rest) := by
  obtain ⟨inner, hinner, rfl⟩ := h
  rw [show 0x22 :: (inner ++ [0x22]) ++ rest = 0x22 :: (inner ++ 0x22 :: rest) by simp,
    value.eq_def]
  dsimp only
  rw [if_pos (by decide), stringBody_spelled hinner]
  rfl

/-! ### Blanks -/

/-- Blanks and nothing else. -/
def Blanks (text : Text) : Prop := ∀ c ∈ text, isBlank c = true

theorem Blanks.nil : Blanks [] := fun _ hc => absurd hc List.not_mem_nil

theorem Blanks.space : Blanks [0x20] := by
  intro c hc
  rw [List.mem_singleton.1 hc]
  rfl

theorem skipBlanks_cons {c : CodePoint} (hc : isBlank c = false) (rest : Text) :
    skipBlanks (c :: rest) = c :: rest := by
  rw [skipBlanks, List.dropWhile_cons, hc]
  rfl

theorem Blanks.skip {blanks : Text} (h : Blanks blanks) (rest : Text) :
    skipBlanks (blanks ++ rest) = skipBlanks rest := List.dropWhile_append_of_pos h

/-! ### Lists and objects -/

/-- Whether a text can continue a numeral that stands in front of it. -/
def continuesNumeral : Text → Bool
  | c :: _ => c.isDigit || c = '.' || c = 'e' || c = 'E'
  | [] => false

/-- A writer and a reader of items between brackets fit together at an item: it is read back from
what was written, and what was written begins with neither a blank nor the closing bracket. -/
structure Fits {α : Type} (item : Text → Except Fault (α × Text)) (write : α → Text)
    (close : CodePoint) (x : α) : Prop where
  read : ∀ rest, continuesNumeral rest = false → item (write x ++ rest) = .ok (x, rest)
  head : ∃ c tail, write x = c :: tail ∧ isBlank c = false ∧ c ≠ close

theorem Fits.skipBlanks {α : Type} {item : Text → Except Fault (α × Text)} {write : α → Text}
    {close : CodePoint} {x : α} (h : Fits item write close x) (rest : Text) :
    skipBlanks (write x ++ rest) = write x ++ rest := by
  obtain ⟨c, tail, hw, hblank, _⟩ := h.head
  rw [hw, List.cons_append, skipBlanks_cons hblank]

/-- How items may be written: with a comma between two of them, and blanks before and after each
comma and behind the last one. -/
inductive Listed {α : Type} (spells : α → Text → Prop) : List α → Text → Prop
  | last {x : α} {written blanks : Text} (item : spells x written) (behind : Blanks blanks) :
      Listed spells [x] (written ++ blanks)
  | more {x : α} {written before after others : Text} {xs : List α} (item : spells x written)
      (ahead : Blanks before) (behind : Blanks after) (later : Listed spells xs others) :
      Listed spells (x :: xs) (written ++ (before ++ 0x2C :: (after ++ others)))

/-- What may be written between two brackets: items, or blanks only. -/
inductive Enclosed {α : Type} (spells : α → Text → Prop) : List α → Text → Prop
  | none {blanks : Text} (behind : Blanks blanks) : Enclosed spells [] blanks
  | some {xs : List α} {blanks written : Text} (ahead : Blanks blanks)
      (items : Listed spells xs written) : Enclosed spells xs (blanks ++ written)

/-- More ways to write each item are more ways to write them all. -/
theorem Enclosed.mono {α : Type} {spells others : α → Text → Prop} {xs : List α} {written : Text}
    (h : Enclosed spells xs written) (hmore : ∀ x text, spells x text → others x text) :
    Enclosed others xs written := by
  cases h with
  | none behind => exact .none behind
  | some ahead items =>
    refine .some ahead ?_
    induction items with
    | last item behind => exact .last (hmore _ _ item) behind
    | more item ahead behind later ih => exact .more (hmore _ _ item) ahead behind ih

/-- No item takes more than all of them. -/
theorem Enclosed.bounded {α : Type} {spells : α → Text → Prop} {xs : List α} {written : Text}
    (h : Enclosed spells xs written) {n : Nat} (hn : written.length ≤ n) :
    Enclosed (fun x text => spells x text ∧ text.length ≤ n) xs written := by
  cases h with
  | none behind => exact .none behind
  | some ahead items =>
    refine .some ahead ?_
    rw [List.length_append] at hn
    replace hn := Nat.le_trans (Nat.le_add_left _ _) hn
    induction items with
    | last item behind =>
      rw [List.length_append] at hn
      exact .last ⟨item, by omega⟩ behind
    | more item ahead behind later ih =>
      simp only [List.length_append, List.length_cons] at hn
      exact .more ⟨item, by omega⟩ ahead behind (ih (by omega))

section

variable {α : Type} {item : Text → Except Fault (α × Text)} {spells : α → Text → Prop}
  {close : CodePoint}

/-- Items begin as the first of them does. -/
theorem Listed.head {xs : List α} {written : Text} (h : Listed spells xs written)
    (hfit : ∀ x text, x ∈ xs → spells x text → Fits item (fun _ => text) close x) :
    ∃ c tail, written = c :: tail ∧ isBlank c = false ∧ c ≠ close := by
  cases h with
  | @last x text blanks hitem hblanks =>
    obtain ⟨c, tail, rfl, hc⟩ := (hfit x text (by simp) hitem).head
    exact ⟨c, tail ++ blanks, rfl, hc⟩
  | @more x text before after others xs hitem hahead hbehind hlater =>
    obtain ⟨c, tail, rfl, hc⟩ := (hfit x text (by simp) hitem).head
    exact ⟨c, _, rfl, hc⟩

/-- Each item takes at least one character. -/
theorem Listed.length_le {xs : List α} {written : Text} (h : Listed spells xs written)
    (hfit : ∀ x text, x ∈ xs → spells x text → Fits item (fun _ => text) close x) :
    xs.length ≤ written.length := by
  induction h with
  | @last x text blanks hitem hblanks =>
    obtain ⟨c, tail, rfl, _⟩ := (hfit x text (by simp) hitem).head
    simp
  | @more x text before after others xs hitem hahead hbehind hlater ih =>
    have hothers := ih fun y text hy => hfit y text (by simp [hy])
    simp only [List.length_append, List.length_cons]
    omega

theorem Enclosed.length_le {xs : List α} {written : Text} (h : Enclosed spells xs written)
    (hfit : ∀ x text, x ∈ xs → spells x text → Fits item (fun _ => text) close x) :
    xs.length ≤ written.length := by
  cases h with
  | none => exact Nat.zero_le _
  | @some xs blanks written _ hitems =>
    have hlength := hitems.length_le hfit
    rw [List.length_append]
    omega

/-- **Items are read up to their closing bracket**, whatever blanks stand around their commas. -/
theorem items_listed {xs : List α} {written : Text} (h : Listed spells xs written)
    (hblank : isBlank close = false) (hcomma : 0x2C ≠ close)
    (hstop : continuesNumeral [close] = false)
    (hfit : ∀ x text, x ∈ xs → spells x text → Fits item (fun _ => text) close x) (rest : Text) :
    ∀ fuel done, xs.length ≤ fuel →
      items item close fuel done (written ++ close :: rest) = .ok (done.reverse ++ xs, rest) := by
  have hblanks : ∀ {blanks : Text} {c : CodePoint}, Blanks blanks → isBlank c = false →
      continuesNumeral [c] = false → ∀ after, continuesNumeral (blanks ++ c :: after) = false ∧
        Json.skipBlanks (blanks ++ c :: after) = c :: after := by
    intro blanks c hblanks hc hnumeral after
    refine ⟨?_, by rw [hblanks.skip, skipBlanks_cons hc]⟩
    cases blanks with
    | nil => exact hnumeral
    | cons b blanks =>
      have hb := hblanks b (by simp)
      simp only [isBlank, Bool.or_eq_true, decide_eq_true_eq] at hb
      rcases hb with ((rfl | rfl) | rfl) | rfl <;> rfl
  induction h with
  | @last x text blanks hitem hbehind =>
    intro fuel done hfuel
    obtain ⟨fuel, rfl⟩ := Nat.exists_eq_succ_of_ne_zero (by simp at hfuel; omega : fuel ≠ 0)
    obtain ⟨hnumeral, hskip⟩ := hblanks hbehind hblank hstop rest
    have hread := (hfit x text (by simp) hitem).read (blanks ++ close :: rest) hnumeral
    rw [List.append_assoc, items, hread]
    dsimp only
    rw [hskip]
    dsimp only
    rw [if_pos rfl, List.reverse_cons]
  | @more x text before after others xs hitem hahead hbehind hlater ih =>
    intro fuel done hfuel
    obtain ⟨fuel, rfl⟩ := Nat.exists_eq_succ_of_ne_zero (by simp at hfuel; omega : fuel ≠ 0)
    rw [List.length_cons] at hfuel
    have hlaterFit : ∀ y text, y ∈ xs → spells y text → Fits item (fun _ => text) close y :=
      fun y text hy => hfit y text (by simp [hy])
    obtain ⟨hnumeral, hskip⟩ := hblanks hahead (show isBlank 0x2C = false by decide)
      (by decide) (after ++ (others ++ close :: rest))
    have hread := (hfit x text (by simp) hitem).read _ hnumeral
    have hnext : Json.skipBlanks (after ++ (others ++ close :: rest))
        = others ++ close :: rest := by
      obtain ⟨c, tail, rfl, hc, _⟩ := hlater.head hlaterFit
      rw [hbehind.skip, List.cons_append, skipBlanks_cons hc]
    rw [show text ++ (before ++ 0x2C :: (after ++ others)) ++ close :: rest
      = text ++ (before ++ 0x2C :: (after ++ (others ++ close :: rest))) by simp, items, hread]
    dsimp only
    rw [hskip]
    dsimp only
    rw [if_neg hcomma, if_pos (by decide), hnext, ih hlaterFit fuel (x :: done) (by omega)]
    simp

/-- **What is written between two brackets is read**, none included. -/
theorem enclosed_spelled {xs : List α} {written : Text} (h : Enclosed spells xs written)
    (hblank : isBlank close = false) (hcomma : 0x2C ≠ close)
    (hstop : continuesNumeral [close] = false)
    (hfit : ∀ x text, x ∈ xs → spells x text → Fits item (fun _ => text) close x) (rest : Text)
    {fuel : Nat} (hfuel : xs.length ≤ fuel) :
    enclosed item close fuel (written ++ close :: rest) = .ok (xs, rest) := by
  unfold enclosed
  cases h with
  | none hbehind =>
    rw [hbehind.skip, skipBlanks_cons hblank]
    dsimp only
    rw [if_pos rfl]
  | @some xs blanks written hahead hitems =>
    have hread := items_listed hitems hblank hcomma hstop hfit rest fuel [] hfuel
    obtain ⟨c, tail, rfl, hc, hne⟩ := hitems.head hfit
    rw [List.append_assoc, hahead.skip, List.cons_append, skipBlanks_cons hc]
    dsimp only
    rw [if_neg hne]
    exact hread

end

/-- How a member may be written: its name, a colon with blanks around it, and its value. -/
def SpellsMember (spells : Json → Text → Prop) (m : Text × Json) (written : Text) : Prop :=
  ∃ name before after value, SpellsQuoted m.1 name ∧ Blanks before ∧ Blanks after ∧
    spells m.2 value ∧ written = name ++ (before ++ 0x3A :: (after ++ value))

/-- No value takes more than all members. -/
theorem Enclosed.bounded_values {spells : Json → Text → Prop} {members : List (Text × Json)}
    {written : Text} (h : Enclosed (SpellsMember spells) members written) {n : Nat}
    (hn : written.length ≤ n) :
    Enclosed (SpellsMember fun v text => spells v text ∧ text.length ≤ n) members written := by
  refine (h.bounded hn).mono ?_
  rintro m _ ⟨⟨name, before, after, value, hname, hbefore, hafter, hvalue, rfl⟩, hlength⟩
  refine ⟨name, before, after, value, hname, hbefore, hafter, ⟨hvalue, ?_⟩, rfl⟩
  simp only [List.length_append, List.length_cons] at hlength
  omega

section

variable {spells : Json → Text → Prop} {fuel room : Nat}

theorem fits_spelledMember {m : Text × Json} {written : Text} (h : SpellsMember spells m written)
    (hfit : ∀ text, spells m.2 text → Fits (value fuel room) (fun _ => text) ']' m.2) :
    Fits (member (value fuel room)) (fun _ => written) '}' m := by
  obtain ⟨name, before, after, text, ⟨inner, hinner, rfl⟩, hbefore, hafter, htext, rfl⟩ := h
  have hvalue := hfit text htext
  refine ⟨fun rest hrest => ?_, 0x22, _, rfl, by decide, by decide⟩
  rw [show 0x22 :: (inner ++ [0x22]) ++ (before ++ 0x3A :: (after ++ text)) ++ rest
    = 0x22 :: (inner ++ 0x22 :: (before ++ 0x3A :: (after ++ (text ++ rest)))) by simp, member,
    if_pos (by decide), stringBody_spelled hinner]
  dsimp only
  rw [hbefore.skip, skipBlanks_cons (by decide)]
  dsimp only
  rw [if_pos (by decide), hafter.skip, hvalue.skipBlanks, hvalue.read rest hrest]
  rfl

theorem fits_spelledMembers {members : List (Text × Json)}
    (hfit : ∀ m text, m ∈ members → spells m.2 text →
      Fits (value fuel room) (fun _ => text) ']' m.2) :
    ∀ m text, m ∈ members → SpellsMember spells m text →
      Fits (member (value fuel room)) (fun _ => text) '}' m :=
  fun m _ hm htext => fits_spelledMember htext fun text => hfit m text hm

/-- A list whose items are read is read. -/
theorem value_spelledList {xs : List Json} {inner : Text} (h : Enclosed spells xs inner)
    (hfit : ∀ x text, x ∈ xs → spells x text → Fits (value fuel room) (fun _ => text) ']' x)
    (hfuel : xs.length ≤ fuel) (rest : Text) :
    value fuel (room + 1) (0x5B :: (inner ++ 0x5D :: rest)) = .ok (.list xs, rest) := by
  have hread := enclosed_spelled h (by decide) (by decide) (by decide) hfit rest hfuel
  rw [value, if_neg (by decide), if_pos (by decide)]
  dsimp only
  rw [show enclosed (value fuel room) (CodePoint.ofChar ']') fuel (inner ++ 0x5D :: rest)
    = .ok (xs, rest) from hread]
  rfl

/-- An object whose members are read is read; of two members of one name the later stays. -/
theorem value_spelledObject {members : List (Text × Json)} {inner : Text}
    (h : Enclosed (SpellsMember spells) members inner)
    (hfit : ∀ m text, m ∈ members → spells m.2 text →
      Fits (value fuel room) (fun _ => text) ']' m.2)
    (hfuel : members.length ≤ fuel) (rest : Text) :
    value fuel (room + 1) (0x7B :: (inner ++ 0x7D :: rest))
      = .ok (.object (settle members), rest) := by
  have hread := enclosed_spelled h (by decide) (by decide) (by decide)
    (fits_spelledMembers hfit) rest hfuel
  rw [value, if_neg (by decide), if_neg (by decide), if_pos (by decide)]
  dsimp only
  rw [show enclosed (member (value fuel room)) (CodePoint.ofChar '}') fuel (inner ++ 0x7D :: rest)
    = .ok (members, rest) from hread]
  rfl

/-- **A whole text with an object in it is read**, whatever blanks stand around it. -/
theorem parse_spelledObject [Depth] {members : List (Text × Json)} {before inner after : Text}
    (hbefore : Blanks before) (hafter : Blanks after)
    (h : Enclosed (SpellsMember spells) members inner)
    (hfit : ∀ m text, m ∈ members → spells m.2 text →
      Fits (value (before ++ 0x7B :: (inner ++ 0x7D :: after)).length (Depth.inner + 1))
        (fun _ => text) ']' m.2) :
    parse (before ++ 0x7B :: (inner ++ 0x7D :: after)) = .ok (.object (settle members)) := by
  have hfuel : members.length ≤ (before ++ 0x7B :: (inner ++ 0x7D :: after)).length := by
    have hlength := h.length_le (fits_spelledMembers hfit)
    simp only [List.length_append, List.length_cons]
    omega
  have hmark : ¬ (before ++ 0x7B :: (inner ++ 0x7D :: after)).head? = some 0xFEFF := by
    cases before with
    | nil =>
      show ¬ some (0x7B : CodePoint) = some 0xFEFF
      decide
    | cons c before =>
      intro hhead
      obtain rfl : c = 0xFEFF := Option.some.inj hhead
      exact absurd (hbefore 0xFEFF (by simp)) (by decide)
  unfold parse
  rw [if_neg hmark, hbefore.skip, skipBlanks_cons (by decide), mostOpen,
    value_spelledObject h hfit hfuel]
  dsimp only
  rw [← List.append_nil after, hafter.skip]
  rfl

end

end Json

end ControlChannel
