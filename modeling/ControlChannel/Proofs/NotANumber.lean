import ControlChannel.Decimal.Reader
import Mathlib.Algebra.Order.Ring.Int
import Mathlib.Tactic.SplitIfs

/-!
# Not-a-number

The order of the doubles has no place for not-a-number, which is neither above zero nor at most
zero.  A text can write it.

* `Double.zero_lt_iff` — a number is above zero exactly if it is neither at most zero nor
  not-a-number;
* `Double.unsigned?_splitSign_iff`, `Double.withoutUnderscores?_iff`, `Double.lowered_asciiForm_iff`
  — no sign, no underscore and no character of another script makes the word another one;
* `Double.WritesNaN`, `Double.read?_eq_nan_iff` — **which texts write not-a-number**.
-/

namespace ControlChannel

/-! ### Numbers above zero -/

namespace Double

theorem asRatio_snd_pos (negative : Bool) (mantissa : Nat) (exponent : Int) :
    0 < (asRatio negative mantissa exponent).2 :=
  Nat.two_pow_pos _

/-- The sign of a finite number is that of the integer in its quotient. -/
theorem asRatio_fst_pos_iff (negative : Bool) (mantissa : Nat) (exponent : Int) :
    0 < (asRatio negative mantissa exponent).1 ↔ negative = false ∧ mantissa ≠ 0 := by
  have hscaled : 0 < mantissa * Nat.pow 2 exponent.toNat ↔ mantissa ≠ 0 :=
    (Nat.mul_pos_iff_of_pos_right (Nat.two_pow_pos _)).trans Nat.pos_iff_ne_zero
  unfold asRatio
  dsimp only
  cases negative with
  | false =>
    rw [if_neg (by simp), Int.natCast_pos, hscaled]
    simp
  | true =>
    refine iff_of_false (fun h => ?_) nofun
    rw [if_pos rfl] at h
    omega

theorem finite_lt_finite (s : Bool) (m : Nat) (e : Int) (t : Bool) (n : Nat) (f : Int) :
    (finite s m e).lt (finite t n f)
      = decide ((asRatio s m e).1 * (asRatio t n f).2 < (asRatio t n f).1 * (asRatio s m e).2) :=
  rfl

/-- A zero of any exponent is below the finite numbers with a mantissa and no sign. -/
theorem zero_lt_finite_iff (e : Int) (negative : Bool) (mantissa : Nat) (exponent : Int) :
    (finite false 0 e).lt (finite negative mantissa exponent) = true
      ↔ negative = false ∧ mantissa ≠ 0 := by
  have hzero : (asRatio false 0 e).1 = 0 := by
    simp [asRatio]
  have hunit : (0 : Int) < (asRatio false 0 e).2 := Int.natCast_pos.2 (asRatio_snd_pos _ _ _)
  rw [finite_lt_finite, decide_eq_true_iff, hzero, Int.zero_mul,
    mul_pos_iff_of_pos_right hunit, asRatio_fst_pos_iff]

/-- **A number is above zero** exactly if it is not at most zero, and a number at all. -/
theorem zero_lt_iff (x : Double) :
    (zeroOf false).lt x = true ↔ x.isAtMostZero = false ∧ x ≠ .nan := by
  cases x with
  | nan => simp [lt, zeroOf]
  | infinite negative => simp [lt, zeroOf, isAtMostZero]
  | finite negative mantissa exponent =>
    rw [zeroOf, zero_lt_finite_iff]
    simp [isAtMostZero]

theorem zero_lt_of_ne_nan {x : Double} (h : x ≠ .nan) :
    (zeroOf false).lt x = ! x.isAtMostZero := by
  rw [Bool.eq_iff_iff, zero_lt_iff, Bool.not_eq_true']
  exact and_iff_left h

/-! ### Texts that write not-a-number -/

theorem ofRatio_ne_nan (negative : Bool) (num den : Nat) : ofRatio negative num den ≠ .nan := by
  unfold ofRatio zeroOf
  dsimp only
  split_ifs <;> simp

theorem ofNumeral_ne_nan (negative : Bool) (whole fraction : Text) (exponent : Int) :
    ofNumeral negative whole fraction exponent ≠ .nan := by
  unfold ofNumeral zeroOf
  dsimp only
  split_ifs
  · simp
  · simp
  · simp
  · exact ofRatio_ne_nan _ _ _
  · exact ofRatio_ne_nan _ _ _

/-- Without its sign, only one word is not-a-number. -/
theorem unsigned?_eq_nan_iff (negative : Bool) (text : Text) :
    unsigned? negative text = some .nan ↔ text = ("nan" : Text) := by
  have hnumeral : ∀ whole fraction rest,
      (exponent? rest).map (ofNumeral negative whole fraction) ≠ some .nan := by
    intro whole fraction rest h
    obtain ⟨exponent, -, hnan⟩ := Option.map_eq_some_iff.1 h
    exact ofNumeral_ne_nan _ _ _ _ hnan
  unfold unsigned?
  split_ifs with hinfinite hnan
  · refine iff_of_false (by simp) ?_
    rintro rfl
    revert hinfinite
    decide
  · exact iff_of_true rfl hnan
  -- wherever the digits are cut, they write a number
  · refine iff_of_false (fun h => ?_) hnan
    dsimp only at h
    rw [Option.ite_none_left_eq_some] at h
    exact hnumeral _ _ _ h.2

/-- The words that write not-a-number, in small letters. -/
def nanWords : List Text := ["nan", '-' :: "nan", '+' :: "nan"]

/-- A sign does not matter. -/
theorem unsigned?_splitSign_iff (text : Text) :
    (unsigned? (splitSign text).1 (splitSign text).2 = some .nan) ↔ text ∈ nanWords := by
  rw [unsigned?_eq_nan_iff]
  unfold splitSign
  split
  · decide
  · rename_i c rest
    have hletters : c :: rest ∈ nanWords ↔
        c = ('n' : CodePoint) ∧ rest = ("an" : Text) ∨ c = ('-' : CodePoint) ∧ rest = ("nan" : Text) ∨
          c = ('+' : CodePoint) ∧ rest = ("nan" : Text) := by
      change c :: rest ∈ [('n' : CodePoint) :: ("an" : Text), _, _] ↔ _
      simp only [List.mem_cons, List.not_mem_nil, List.cons.injEq, or_false]
    rw [hletters]
    split_ifs with hminus hplus
    · rw [hminus]
      simp [show ('-' : CodePoint) ≠ 'n' by decide, show ('-' : CodePoint) ≠ '+' by decide]
    · rw [hplus]
      simp [show ('+' : CodePoint) ≠ 'n' by decide, show ('+' : CodePoint) ≠ '-' by decide]
    · change c :: rest = ('n' : CodePoint) :: ("an" : Text) ↔ _
      simp [hminus, hplus]

/-! #### Underscores -/

/-- An underscore that fits has a digit in front of it. -/
theorem exists_digit_of_underscore {previous : Option CodePoint} {text : Text}
    (hfit : underscoresFit previous text = true) (h : ('_' : CodePoint) ∈ text) :
    previous.any (·.isDigit) = true ∨ ∃ d ∈ text, d.isDigit = true := by
  induction text generalizing previous with
  | nil => cases h
  | cons c rest ih =>
    rw [underscoresFit, Bool.and_eq_true] at hfit
    by_cases hc : c = ('_' : CodePoint)
    · rw [if_pos hc] at hfit
      exact .inl hfit.1
    · obtain hdigit | ⟨d, hd, hdigit⟩ :=
        ih hfit.2 ((List.mem_cons.1 h).resolve_left (Ne.symm hc))
      · exact .inr ⟨c, List.mem_cons_self, hdigit⟩
      · exact .inr ⟨d, List.mem_cons_of_mem _ hd, hdigit⟩

theorem underscoresFit_of_not_mem {previous : Option CodePoint} {text : Text}
    (hprevious : previous ≠ some '_') (h : ('_' : CodePoint) ∉ text) :
    underscoresFit previous text = true := by
  induction text generalizing previous with
  | nil => simpa [underscoresFit] using hprevious
  | cons c rest ih =>
    have hc : c ≠ ('_' : CodePoint) := fun hc => h (hc ▸ List.mem_cons_self)
    rw [underscoresFit, if_neg hc]
    simp only [hprevious, ne_eq, not_false_eq_true, decide_true, Bool.true_or, Bool.true_and]
    exact ih (by simpa using hc) fun hrest => h (List.mem_cons_of_mem _ hrest)

/-- What a word of ASCII is spelled with that has no digit, space or underscore. -/
def isSpelling (c : CodePoint) : Bool :=
  decide (c.val < 0x80) && ! c.isDigit && c ≠ ' ' && c ≠ '_'

theorem isSpelling_iff (c : CodePoint) : isSpelling c = true ↔
    c.val < 0x80 ∧ c.isDigit = false ∧ c ≠ (' ' : CodePoint) ∧ c ≠ ('_' : CodePoint) := by
  simp only [isSpelling, Bool.and_eq_true, decide_eq_true_iff, Bool.not_eq_true', and_assoc]

theorem isSpelling_of_mem {word : Text} (hword : word ∈ nanWords) {c : CodePoint} (hc : c ∈ word) :
    isSpelling c = true := by
  have hall : (nanWords.all fun word => word.all isSpelling) = true := by decide
  exact List.all_eq_true.1 (List.all_eq_true.1 hall word hword) c hc

/-- The ASCII letter in lower case. -/
def small (c : CodePoint) : CodePoint :=
  if 0x41 ≤ c.val && c.val ≤ 0x5A then .ofNat (c.val + 0x20) else c

theorem lowered_eq (text : Text) : lowered text = text.map small := rfl

/-- Only capital letters of ASCII change. -/
theorem small_of_not_capital {c : CodePoint} (h : c.val < 0x41 ∨ 0x5A < c.val) : small c = c := by
  refine if_neg fun hcapital => ?_
  rw [Bool.and_eq_true, decide_eq_true_iff, decide_eq_true_iff] at hcapital
  omega

theorem small_of_isDigit {c : CodePoint} (h : c.isDigit = true) : small c = c := by
  rw [CodePoint.isDigit, Bool.and_eq_true, decide_eq_true_iff, decide_eq_true_iff] at h
  exact small_of_not_capital (by omega)

/-- A character that does not change is spelled like one of the words, if it stands in a text that
becomes such a word. -/
theorem spelled_of_mem {text : Text} (hword : lowered text ∈ nanWords) {c : CodePoint}
    (hc : c ∈ text) (hsmall : small c = c) : c.isDigit = false ∧ c ≠ ('_' : CodePoint) := by
  have hmem : c ∈ lowered text := List.mem_map.2 ⟨c, hc, hsmall⟩
  obtain ⟨-, hdigit, -, hunderscore⟩ := (isSpelling_iff c).1 (isSpelling_of_mem hword hmem)
  exact ⟨hdigit, hunderscore⟩

/-- No underscore can stand in one of the words. -/
theorem withoutUnderscores?_iff (text : Text) :
    (∃ plain, withoutUnderscores? text = some plain ∧ lowered plain ∈ nanWords) ↔
      lowered text ∈ nanWords := by
  have hkept : ('_' : CodePoint) ∉ text → text.filter (· ≠ ('_' : CodePoint)) = text := by
    intro h
    exact List.filter_eq_self.2 fun c hc => decide_eq_true fun hsame => h (hsame ▸ hc)
  unfold withoutUnderscores?
  constructor
  · rintro ⟨plain, hplain, hword⟩
    split_ifs at hplain with hfit
    obtain rfl := Option.some.inj hplain
    have hnone : ('_' : CodePoint) ∉ text := by
      intro hunderscore
      obtain hprevious | ⟨d, hd, hdigit⟩ := exists_digit_of_underscore hfit hunderscore
      · cases hprevious
      · have hkeep : d ∈ text.filter (· ≠ ('_' : CodePoint)) := by
          refine List.mem_filter.2 ⟨hd, decide_eq_true ?_⟩
          rintro rfl
          revert hdigit
          decide
        rw [(spelled_of_mem hword hkeep (small_of_isDigit hdigit)).1] at hdigit
        cases hdigit
    rwa [hkept hnone] at hword
  · intro hword
    have hnone : ('_' : CodePoint) ∉ text := fun hunderscore =>
      (spelled_of_mem hword hunderscore rfl).2 rfl
    rw [if_pos (underscoresFit_of_not_mem (Option.some_ne_none _).symm hnone), hkept hnone]
    exact ⟨text, rfl, hword⟩

/-! #### Blanks, and other scripts -/

/-- The characters that a reader of numbers skips at either end: in ASCII fewer than the blanks. -/
def isPadding (c : CodePoint) : Bool := if c.val < 0x80 then c.isAsciiBlank else c.isBlank

/-- A text writes not-a-number: between what is skipped stands this word, in any case of letters,
with a sign or without one. -/
def WritesNaN (text : Text) : Prop := lowered (Text.trim isPadding text) ∈ nanWords

instance (text : Text) : Decidable (WritesNaN text) :=
  inferInstanceAs (Decidable (lowered (Text.trim isPadding text) ∈ nanWords))

theorem trim_map (drop : CodePoint → Bool) (f : CodePoint → CodePoint) (text : Text) :
    Text.trim drop (text.map f) = (Text.trim (drop ∘ f) text).map f := by
  simp only [Text.trim, Text.dropEndWhile, List.dropWhile_map, ← List.map_reverse]

/-- A character in ASCII, as far as it is a blank or a digit. -/
def asciiPoint (c : CodePoint) : CodePoint :=
  if c.val < 0x80 then c
  else if c.isBlank then ' '
  else
    match c.decimalValue? with
    | some d => CodePoint.ofDigit d
    | none => c

theorem asciiForm_eq (text : Text) : asciiForm text = text.map asciiPoint := rfl

theorem decimalValue?_lt {c : CodePoint} {d : Nat} (h : c.decimalValue? = some d) : d < 10 := by
  unfold CodePoint.decimalValue? at h
  split_ifs at h with hascii hdigit
  · rw [CodePoint.isDigit, Bool.and_eq_true, decide_eq_true_iff, decide_eq_true_iff] at hdigit
    cases h
    unfold CodePoint.digitValue
    omega
  · obtain ⟨first, hfirst, rfl⟩ := Option.map_eq_some_iff.1 h
    have hrange := List.find?_some hfirst
    rw [Bool.and_eq_true, decide_eq_true_iff, decide_eq_true_iff] at hrange
    omega

theorem ofDigit_spelled : ∀ d < 10,
    (CodePoint.ofDigit d).isAsciiBlank = false ∧ (CodePoint.ofDigit d).isDigit = true := by
  decide

/-- Beyond ASCII, a character becomes a blank, a digit, or stays beyond ASCII. -/
theorem asciiPoint_cases (c : CodePoint) (h : ¬ c.val < 0x80) :
    (c.isBlank = true ∧ asciiPoint c = ' ') ∨
      c.isBlank = false ∧ (∃ d < 10, asciiPoint c = CodePoint.ofDigit d) ∨
      c.isBlank = false ∧ asciiPoint c = c := by
  unfold asciiPoint
  rw [if_neg h]
  split_ifs with hblank
  · exact .inl ⟨hblank, rfl⟩
  · rw [Bool.not_eq_true] at hblank
    split
    · rename_i d hd
      exact .inr (.inl ⟨hblank, d, decimalValue?_lt hd, rfl⟩)
    · exact .inr (.inr ⟨hblank, rfl⟩)

theorem not_isAsciiBlank {c : CodePoint} (h : ¬ c.val < 0x80) : c.isAsciiBlank = false := by
  unfold CodePoint.isAsciiBlank
  simp only [Bool.or_eq_false_iff, Bool.and_eq_false_iff, decide_eq_false_iff_not]
  omega

theorem isAsciiBlank_asciiPoint (c : CodePoint) : (asciiPoint c).isAsciiBlank = isPadding c := by
  unfold isPadding
  by_cases h : c.val < 0x80
  · rw [asciiPoint, if_pos h, if_pos h]
  · rw [if_neg h]
    obtain ⟨hblank, hpoint⟩ | ⟨hblank, ⟨d, hd, hpoint⟩⟩ | ⟨hblank, hpoint⟩ := asciiPoint_cases c h
    · rw [hpoint, hblank]
      rfl
    · rw [hpoint, hblank]
      exact (ofDigit_spelled d hd).1
    · rw [hpoint, hblank]
      exact not_isAsciiBlank h

theorem trim_asciiForm (text : Text) :
    Text.trim (·.isAsciiBlank) (asciiForm text) = asciiForm (Text.trim isPadding text) := by
  have hpadding : (fun c : CodePoint => c.isAsciiBlank) ∘ asciiPoint = isPadding := by
    funext c
    exact isAsciiBlank_asciiPoint c
  rw [asciiForm_eq, trim_map, hpadding]
  rfl

/-- In ASCII a character becomes one that the words are spelled with exactly if it does so as it is. -/
theorem small_asciiPoint_iff {x : CodePoint} (c : CodePoint) (hx : isSpelling x = true) :
    small (asciiPoint c) = x ↔ small c = x := by
  obtain ⟨hascii, hdigit, hblank, -⟩ := (isSpelling_iff x).1 hx
  by_cases h : c.val < 0x80
  · rw [asciiPoint, if_pos h]
  have hsmall : small c = c := small_of_not_capital (by omega)
  have hbeyond : small c ≠ x := by
    rw [hsmall]
    rintro rfl
    exact h hascii
  refine iff_of_false ?_ hbeyond
  obtain ⟨-, hpoint⟩ | ⟨-, ⟨d, hd, hpoint⟩⟩ | ⟨-, hpoint⟩ := asciiPoint_cases c h
  · rw [hpoint]
    exact hblank.symm
  · rw [hpoint, small_of_isDigit (ofDigit_spelled d hd).2]
    rintro rfl
    rw [(ofDigit_spelled d hd).2] at hdigit
    cases hdigit
  · rw [hpoint]
    exact hbeyond

/-- A text becomes such a word exactly if it does so in ASCII. -/
theorem lowered_asciiForm_eq_iff (text : Text) {word : Text}
    (hword : ∀ x ∈ word, isSpelling x = true) :
    lowered (asciiForm text) = word ↔ lowered text = word := by
  rw [asciiForm_eq, lowered_eq, lowered_eq]
  induction text generalizing word with
  | nil => rfl
  | cons c rest ih =>
    cases word with
    | nil => exact iff_of_false nofun nofun
    | cons x others =>
      simp only [List.map_cons, List.cons.injEq]
      rw [small_asciiPoint_iff c (hword x List.mem_cons_self),
        ih fun y hy => hword y (List.mem_cons_of_mem _ hy)]

theorem lowered_asciiForm_iff (text : Text) :
    lowered (asciiForm text) ∈ nanWords ↔ lowered text ∈ nanWords := by
  constructor
  · intro h
    rwa [(lowered_asciiForm_eq_iff text fun _ => isSpelling_of_mem h).1 rfl]
  · intro h
    rwa [(lowered_asciiForm_eq_iff text fun _ => isSpelling_of_mem h).2 rfl]

/-- **Which texts write not-a-number.** -/
theorem read?_eq_nan_iff (text : Text) : read? text = some .nan ↔ WritesNaN text := by
  rw [WritesNaN, ← lowered_asciiForm_iff, ← trim_asciiForm, ← withoutUnderscores?_iff]
  unfold read?
  simp only [Option.bind_eq_bind, Option.bind_eq_some_iff, unsigned?_splitSign_iff]

/-- The ideographic space is skipped too. -/
example : WritesNaN "\t-NaN\u3000" ∧ ¬ WritesNaN "na_n" := by decide

end Double

end ControlChannel
