import ControlChannel.Text.Utf8
import Mathlib.Data.List.TakeWhile
import Mathlib.Tactic.SplitIfs

/-!
# UTF-8: decoding gives back what was encoded

* `front_octets` — the octets of a code point that is no surrogate read back as that code point,
  **whatever follows them**;
* `decode_flatMap_octets` — the same for a whole text;
* `encode_eq_ok_iff` — a text has octets exactly when no surrogate is in it, and then they are the
  octets of its code points, one after the other.
-/

namespace ControlChannel

namespace CodePoint

/-- A code point is the one with its own number. -/
theorem ofNat_val (c : CodePoint) : ofNat c.val = c := by
  rw [ofNat, dif_pos c.isLt]

end CodePoint

namespace Utf8

/-! ### Octets and their payload bits -/

theorem isContinuation_ofNat {n : Nat} (hn : n < 0x40) :
    isContinuation (.ofNat (0x80 + n)) = true := by
  have hv : (UInt8.ofNat (0x80 + n)).toNat = 0x80 + n :=
    UInt8.toNat_ofNat_of_lt' (show 0x80 + n < 256 by omega)
  simp only [isContinuation, Bool.and_eq_true, decide_eq_true_eq, UInt8.le_iff_toNat_le,
    UInt8.lt_iff_toNat_lt, hv]
  constructor
  · show 128 ≤ 0x80 + n
    omega
  · show 0x80 + n < 192
    omega

theorem payload_ofNat {n : Nat} (hn : n < 0x40) : payload (.ofNat (0x80 + n)) = n := by
  rw [payload, UInt8.toNat_ofNat_of_lt' (show 0x80 + n < 256 by omega)]
  omega

/-- A start octet of three or four allows a continuation octet unless it is one of the four that
keep out surrogates, code points beyond the last, and spellings longer than needed. -/
theorem allowsSecond_ofNat {a n : Nat} (ha : a < 256) (hn : n < 0x40)
    (hE0 : a = 0xE0 → 0x20 ≤ n) (hED : a = 0xED → n < 0x20) (hF0 : a = 0xF0 → 0x10 ≤ n)
    (hF4 : a = 0xF4 → n < 0x10) : allowsSecond (.ofNat a) (.ofNat (0x80 + n)) = true := by
  have hv : (UInt8.ofNat (0x80 + n)).toNat = 0x80 + n :=
    UInt8.toNat_ofNat_of_lt' (show 0x80 + n < 256 by omega)
  have hw : (UInt8.ofNat a).toNat = a := UInt8.toNat_ofNat_of_lt' ha
  have hs : ∀ k : UInt8, UInt8.ofNat a = k ↔ a = k.toNat := by
    intro k
    rw [← UInt8.toNat_inj, hw]
  have hc := isContinuation_ofNat hn
  simp only [allowsSecond, hs, UInt8.le_iff_toNat_le, UInt8.lt_iff_toNat_lt, hv]
  simp only [show (0xE0 : UInt8).toNat = 0xE0 from rfl, show (0xED : UInt8).toNat = 0xED from rfl,
    show (0xF0 : UInt8).toNat = 0xF0 from rfl, show (0xF4 : UInt8).toNat = 0xF4 from rfl,
    show (0xA0 : UInt8).toNat = 0xA0 from rfl, show (0xC0 : UInt8).toNat = 0xC0 from rfl,
    show (0x80 : UInt8).toNat = 0x80 from rfl, show (0x90 : UInt8).toNat = 0x90 from rfl]
  split_ifs with h1 h2 h3 h4
  · have := hE0 h1
    simp only [Bool.and_eq_true, decide_eq_true_eq]
    omega
  · have := hED h2
    simp only [Bool.and_eq_true, decide_eq_true_eq]
    omega
  · have := hF0 h3
    simp only [Bool.and_eq_true, decide_eq_true_eq]
    omega
  · have := hF4 h4
    simp only [Bool.and_eq_true, decide_eq_true_eq]
    omega
  · exact hc

/-! ### One code point, by the number of its octets -/

/-- Octets compare as their numbers do. -/
theorem ofNat_lt_iff {a : Nat} (ha : a < 256) (k : UInt8) : UInt8.ofNat a < k ↔ a < k.toNat := by
  rw [UInt8.lt_iff_toNat_lt, UInt8.toNat_ofNat_of_lt' (show a < UInt8.size from ha)]

theorem front_one {a : Nat} (ha : a < 0x80) (rest : Bytes) :
    front (.ofNat a) rest = .char (.ofNat a) rest := by
  have hlt := ofNat_lt_iff (show a < 256 by omega)
  unfold front
  rw [if_pos ((hlt 0x80).2 ha), UInt8.toNat_ofNat_of_lt' (show a < 256 by omega)]

theorem front_two {h l : Nat} (hh : 2 ≤ h ∧ h < 0x20) (hl : l < 0x40) (rest : Bytes) :
    front (.ofNat (0xC0 + h)) (.ofNat (0x80 + l) :: rest) = .char (.ofNat (h * 0x40 + l)) rest := by
  have hlt := ofNat_lt_iff (show 0xC0 + h < 256 by omega)
  unfold front
  rw [if_neg (mt (hlt 0x80).1 (show ¬ 0xC0 + h < 0x80 by omega)),
    if_neg (mt (hlt 0xC2).1 (show ¬ 0xC0 + h < 0xC2 by omega)),
    if_pos ((hlt 0xE0).2 (show 0xC0 + h < 0xE0 by omega))]
  show (if isContinuation (.ofNat (0x80 + l)) then _ else _) = _
  rw [if_pos (isContinuation_ofNat hl), payload_ofNat hl,
    UInt8.toNat_ofNat_of_lt' (show 0xC0 + h < 256 by omega),
    show (0xC0 + h) % 0x20 = h by omega]

theorem front_three {h m l : Nat} (hh : h < 0x10) (hm : m < 0x40) (hl : l < 0x40)
    (hlong : h = 0 → 0x20 ≤ m) (hsur : h = 0xD → m < 0x20) (rest : Bytes) :
    front (.ofNat (0xE0 + h)) (.ofNat (0x80 + m) :: .ofNat (0x80 + l) :: rest)
      = .char (.ofNat (h * 0x1000 + m * 0x40 + l)) rest := by
  have hlt := ofNat_lt_iff (show 0xE0 + h < 256 by omega)
  have hsecond : allowsSecond (.ofNat (0xE0 + h)) (.ofNat (0x80 + m)) = true :=
    allowsSecond_ofNat (by omega) hm (by omega) (by omega) (by omega) (by omega)
  unfold front
  rw [if_neg (mt (hlt 0x80).1 (show ¬ 0xE0 + h < 0x80 by omega)),
    if_neg (mt (hlt 0xC2).1 (show ¬ 0xE0 + h < 0xC2 by omega)),
    if_neg (mt (hlt 0xE0).1 (show ¬ 0xE0 + h < 0xE0 by omega)),
    if_pos ((hlt 0xF0).2 (show 0xE0 + h < 0xF0 by omega))]
  show (if ! allowsSecond (.ofNat (0xE0 + h)) (.ofNat (0x80 + m)) then _ else _) = _
  rw [hsecond]
  show (if isContinuation (.ofNat (0x80 + l)) then _ else _) = _
  rw [if_pos (isContinuation_ofNat hl), payload_ofNat hl, payload_ofNat hm,
    UInt8.toNat_ofNat_of_lt' (show 0xE0 + h < 256 by omega),
    show (0xE0 + h) % 0x10 = h by omega]

theorem front_four {h u m l : Nat} (hh : h < 5) (hu : u < 0x40) (hm : m < 0x40) (hl : l < 0x40)
    (hlong : h = 0 → 0x10 ≤ u) (hlast : h = 4 → u < 0x10) (rest : Bytes) :
    front (.ofNat (0xF0 + h))
        (.ofNat (0x80 + u) :: .ofNat (0x80 + m) :: .ofNat (0x80 + l) :: rest)
      = .char (.ofNat (h * 0x40000 + u * 0x1000 + m * 0x40 + l)) rest := by
  have hlt := ofNat_lt_iff (show 0xF0 + h < 256 by omega)
  have hsecond : allowsSecond (.ofNat (0xF0 + h)) (.ofNat (0x80 + u)) = true :=
    allowsSecond_ofNat (by omega) hu (by omega) (by omega) (by omega) (by omega)
  unfold front
  rw [if_neg (mt (hlt 0x80).1 (show ¬ 0xF0 + h < 0x80 by omega)),
    if_neg (mt (hlt 0xC2).1 (show ¬ 0xF0 + h < 0xC2 by omega)),
    if_neg (mt (hlt 0xE0).1 (show ¬ 0xF0 + h < 0xE0 by omega)),
    if_neg (mt (hlt 0xF0).1 (show ¬ 0xF0 + h < 0xF0 by omega)),
    if_pos ((hlt 0xF5).2 (show 0xF0 + h < 0xF5 by omega))]
  show (if ! allowsSecond (.ofNat (0xF0 + h)) (.ofNat (0x80 + u)) then _ else _) = _
  rw [hsecond]
  show (if ! isContinuation (.ofNat (0x80 + m)) then _ else _) = _
  rw [isContinuation_ofNat hm]
  show (if isContinuation (.ofNat (0x80 + l)) then _ else _) = _
  rw [if_pos (isContinuation_ofNat hl), payload_ofNat hl, payload_ofNat hm, payload_ofNat hu,
    UInt8.toNat_ofNat_of_lt' (show 0xF0 + h < 256 by omega),
    show (0xF0 + h) % 0x08 = h by omega]

/-- **The octets of a code point read back.**  They begin with some octet, and reading from there
gives the code point and leaves exactly what follows. -/
theorem front_octets (c : CodePoint) (hc : c.isSurrogate = false) :
    ∃ b tail, octets c = b :: tail ∧ ∀ rest, front b (tail ++ rest) = .char c rest := by
  have hlast : c.val < 0x110000 := c.isLt
  have hsur : ¬ (0xD800 ≤ c.val ∧ c.val < 0xE000) := by
    intro h
    simp [CodePoint.isSurrogate, h] at hc
  have hback : ∀ n, n = c.val → CodePoint.ofNat n = c := by
    rintro n rfl
    exact CodePoint.ofNat_val c
  unfold octets
  dsimp only
  split_ifs with h1 h2 h3
  · refine ⟨_, _, rfl, fun rest => ?_⟩
    rw [List.nil_append, front_one h1, hback _ rfl]
  · refine ⟨_, _, rfl, fun rest => ?_⟩
    rw [List.cons_append, List.nil_append, front_two (by omega) (by omega), hback _ (by omega)]
  · refine ⟨_, _, rfl, fun rest => ?_⟩
    rw [List.cons_append, List.cons_append, List.nil_append,
      front_three (by omega) (by omega) (by omega) (by omega) (by omega), hback _ (by omega)]
  · refine ⟨_, _, rfl, fun rest => ?_⟩
    rw [List.cons_append, List.cons_append, List.cons_append, List.nil_append,
      front_four (by omega) (by omega) (by omega) (by omega) (by omega) (by omega),
      hback _ (by omega)]

/-! ### Whole texts -/

theorem decodeFrom_flatMap_octets (whole : Nat) (text : Text) :
    ∀ done, (∀ c ∈ text, c.isSurrogate = false) →
      decodeFrom whole done (text.flatMap octets) = .ok (done.reverse ++ text) := by
  induction text with
  | nil =>
    intro done _
    rw [List.flatMap_nil, decodeFrom, List.append_nil]
  | cons c text ih =>
    intro done hs
    obtain ⟨b, tail, hoct, hfront⟩ := front_octets c (hs c (by simp))
    rw [List.flatMap_cons, hoct, List.cons_append, decodeFrom]
    split
    · rename_i c' rest' hread
      rw [hfront] at hread
      cases hread
      rw [ih (c :: done) fun x hx => hs x (by simp [hx]), List.reverse_cons, List.append_assoc]
      rfl
    · rename_i hread
      rw [hfront] at hread
      cases hread

/-- **The octets of a text without surrogates spell that text.** -/
theorem decode_flatMap_octets (text : Text) (hs : ∀ c ∈ text, c.isSurrogate = false) :
    decode (text.flatMap octets) = .ok text :=
  decodeFrom_flatMap_octets _ text [] hs

/-- A text has octets exactly when no surrogate is in it. -/
theorem encode_eq_ok_iff (text : Text) (bytes : Bytes) :
    encode text = .ok bytes ↔
      (∀ c ∈ text, c.isSurrogate = false) ∧ bytes = text.flatMap octets := by
  have hnil : text.dropWhile (! ·.isSurrogate) = [] ↔ ∀ c ∈ text, c.isSurrogate = false := by
    rw [List.dropWhile_eq_nil_iff]
    simp
  rw [encode, ← hnil]
  split
  · rename_i hnone
    rw [hnone]
    constructor
    · intro h
      cases h
      exact ⟨rfl, rfl⟩
    · rintro ⟨_, rfl⟩
      rfl
  · rename_i hsome
    constructor
    · intro h
      cases h
    · rintro ⟨h, _⟩
      exact absurd h hsome

end Utf8

end ControlChannel
