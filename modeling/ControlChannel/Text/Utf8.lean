import ControlChannel.Text.Basic

/-!
# UTF-8: texts as octets

The encoding form of the wire.  Lone surrogates have no octets, and the octets of a surrogate
are no text, so the two directions refuse exactly what the other cannot give back.

* `Utf8.octets` — the one to four octets of a code point;
* `Utf8.encode` — a whole text, refused with the first run of surrogates in it;
* `Utf8.decode` — a whole octet string, refused with the first **maximal ill-formed part**:
  one octet, or a well-formed beginning that is not continued;
* `EncodeFault.message`, `DecodeFault.message` — the wording of both refusals.
-/

namespace ControlChannel

/-- An octet string. -/
abbrev Bytes := List UInt8

namespace Utf8

/-! ### Encoding -/

/-- The octets of a code point, by the number of payload bits it needs. -/
def octets (c : CodePoint) : Bytes :=
  let n := c.val
  if n < 0x80 then [.ofNat n]
  else if n < 0x800 then [.ofNat (0xC0 + n / 0x40), .ofNat (0x80 + n % 0x40)]
  else if n < 0x10000 then
    [.ofNat (0xE0 + n / 0x1000), .ofNat (0x80 + n / 0x40 % 0x40), .ofNat (0x80 + n % 0x40)]
  else
    [.ofNat (0xF0 + n / 0x40000), .ofNat (0x80 + n / 0x1000 % 0x40),
      .ofNat (0x80 + n / 0x40 % 0x40), .ofNat (0x80 + n % 0x40)]

/-- A run of surrogates that cannot be encoded: where it starts and what it is. -/
structure EncodeFault where
  position : Nat
  run : Text
  deriving DecidableEq

/-- The octets of a text without surrogates; otherwise its first run of surrogates. -/
def encode (text : Text) : Except EncodeFault Bytes :=
  match text.dropWhile (! ·.isSurrogate) with
  | [] => .ok (text.flatMap octets)
  | bad => .error
      { position := text.length - bad.length, run := bad.takeWhile (·.isSurrogate) }

/-- The text with every surrogate replaced by a question mark, in octets. -/
def encodeReplacing (text : Text) : Bytes :=
  text.flatMap fun c => if c.isSurrogate then [0x3F] else octets c

/-! ### Decoding -/

/-- Why octets are not well-formed. -/
inductive DecodeCause
  | invalidStart
  | invalidContinuation
  | unexpectedEnd
  deriving DecidableEq

/-- The octets that are not well-formed: why, from where, and which. -/
structure DecodeFault where
  cause : DecodeCause
  position : Nat
  run : Bytes
  deriving DecidableEq

/-- An octet that carries six payload bits of an earlier start octet. -/
def isContinuation (b : UInt8) : Bool := 0x80 ≤ b && b < 0xC0

/-- The octets allowed directly after a start octet of three or four: the ranges keep out
surrogates, code points beyond the last, and spellings longer than needed. -/
def allowsSecond (start second : UInt8) : Bool :=
  if start = 0xE0 then 0xA0 ≤ second && second < 0xC0
  else if start = 0xED then 0x80 ≤ second && second < 0xA0
  else if start = 0xF0 then 0x90 ≤ second && second < 0xC0
  else if start = 0xF4 then 0x80 ≤ second && second < 0x90
  else isContinuation second

/-- The six payload bits of a continuation octet. -/
def payload (b : UInt8) : Nat := b.toNat % 0x40

/-- How the octets at the front read: a code point with what follows it, or the ill-formed
octets and why. -/
inductive Front
  | char (c : CodePoint) (rest : Bytes)
  | bad (cause : DecodeCause) (run : Bytes)

/-- Reads one code point from a start octet and what follows it. -/
def front (b : UInt8) (rest : Bytes) : Front :=
  if b < 0x80 then .char (.ofNat b.toNat) rest
  else if b < 0xC2 then .bad .invalidStart [b]
  else if b < 0xE0 then
    match rest with
    | [] => .bad .unexpectedEnd [b]
    | b₂ :: rest =>
      if isContinuation b₂ then .char (.ofNat (b.toNat % 0x20 * 0x40 + payload b₂)) rest
      else .bad .invalidContinuation [b]
  else if b < 0xF0 then
    match rest with
    | [] => .bad .unexpectedEnd [b]
    | b₂ :: rest =>
      if ! allowsSecond b b₂ then .bad .invalidContinuation [b]
      else
        match rest with
        | [] => .bad .unexpectedEnd [b, b₂]
        | b₃ :: rest =>
          if isContinuation b₃ then
            .char (.ofNat (b.toNat % 0x10 * 0x1000 + payload b₂ * 0x40 + payload b₃)) rest
          else .bad .invalidContinuation [b, b₂]
  else if b < 0xF5 then
    match rest with
    | [] => .bad .unexpectedEnd [b]
    | b₂ :: rest =>
      if ! allowsSecond b b₂ then .bad .invalidContinuation [b]
      else
        match rest with
        | [] => .bad .unexpectedEnd [b, b₂]
        | b₃ :: rest =>
          if ! isContinuation b₃ then .bad .invalidContinuation [b, b₂]
          else
            match rest with
            | [] => .bad .unexpectedEnd [b, b₂, b₃]
            | b₄ :: rest =>
              if isContinuation b₄ then
                .char (.ofNat (b.toNat % 0x08 * 0x40000 + payload b₂ * 0x1000
                  + payload b₃ * 0x40 + payload b₄)) rest
              else .bad .invalidContinuation [b, b₂, b₃]
  else .bad .invalidStart [b]

theorem front_char_length {b : UInt8} {rest rest' : Bytes} {c : CodePoint}
    (h : front b rest = .char c rest') : rest'.length ≤ rest.length := by
  unfold front at h
  repeat' split at h
  all_goals first
    | (cases h; done)
    | (cases h; simp only [List.length_cons]; omega)
    | (cases h; exact Nat.le_refl _)

/-- Reads code points until the octets end; `done` holds those read so far, last first. -/
def decodeFrom (whole : Nat) (done : Text) (bytes : Bytes) : Except DecodeFault Text :=
  match bytes with
  | [] => .ok done.reverse
  | b :: rest =>
    match _ : front b rest with
    | .char c rest' => decodeFrom whole (c :: done) rest'
    | .bad cause run => .error { cause, position := whole - (rest.length + 1), run }
termination_by bytes.length
decreasing_by
  have := front_char_length (by assumption)
  simp only [List.length_cons]
  omega

/-- The text that the octets spell. -/
def decode (bytes : Bytes) : Except DecodeFault Text := decodeFrom bytes.length [] bytes

/-! ### Decoding file names and files leniently -/

/-- Reads code points until the octets end, an ill-formed octet `b` becoming U+DC00 + `b`. -/
def decodeEscapingFrom (done : Text) (bytes : Bytes) : Text :=
  match bytes with
  | [] => done.reverse
  | b :: rest =>
    match _ : front b rest with
    | .char c rest' => decodeEscapingFrom (c :: done) rest'
    | .bad _ _ => decodeEscapingFrom (.ofNat (0xDC00 + b.toNat) :: done) rest
termination_by bytes.length
decreasing_by
  · have := front_char_length (by assumption)
    simp only [List.length_cons]
    omega
  · simp only [List.length_cons]
    omega

/-- The text of an octet string from the operating system: octets that are no UTF-8 are kept
as surrogates. -/
def decodeEscaping (bytes : Bytes) : Text := decodeEscapingFrom [] bytes

/-- Whether a surrogate stands for an octet that is no UTF-8. -/
def isEscape (c : CodePoint) : Bool := 0xDC80 ≤ c.val && c.val < 0xDD00

/-- The octets of a text that holds an undecodable octet `b` as U+DC00 + `b`. -/
def encodeEscaping (text : Text) : Bytes :=
  text.flatMap fun c => if isEscape c then [.ofNat (c.val - 0xDC00)] else octets c

/-- The same for a text of any origin, refused from the first surrogate that stands for no octet
to the end of its run. -/
def encodeEscaping? (text : Text) : Except EncodeFault Bytes :=
  match text.dropWhile fun c => ! c.isSurrogate || isEscape c with
  | [] => .ok (encodeEscaping text)
  | bad => .error
      { position := text.length - bad.length, run := bad.takeWhile (·.isSurrogate) }

/-- A text as the system gives it back: escapes side by side become the character that their octets
spell, where they spell one. -/
def reread (text : Text) : Text := decodeEscaping (encodeEscaping text)

/-! ### Wording -/

/-- A code point as an escape: `\xhh`, `\uhhhh` or `\Uhhhhhhhh`, the shortest that holds it. -/
def escaped (c : CodePoint) : Text :=
  if c.val < 0x100 then ("\\x" : Text) ++ Text.hex 2 c.val
  else if c.val < 0x10000 then ("\\u" : Text) ++ Text.hex 4 c.val
  else ("\\U" : Text) ++ Text.hex 8 c.val

/-- The wording of a text that an encoding refuses names the one code point, or the places of the
run. -/
def unencodableText (codec reason : Text) (position : Nat) (run : Text) : Text :=
  match run with
  | [c] =>
    "'" ++ codec ++ "' codec can't encode character '" ++ escaped c ++ "' in position "
      ++ Text.ofNat position ++ ": " ++ reason
  | run =>
    "'" ++ codec ++ "' codec can't encode characters in position " ++ Text.ofNat position ++ "-"
      ++ Text.ofNat (position + run.length - 1) ++ ": " ++ reason

/-- The wording of an encoding fault. -/
def EncodeFault.message (fault : EncodeFault) : Text :=
  unencodableText "utf-8" "surrogates not allowed" fault.position fault.run

/-- The wording of a cause. -/
def DecodeCause.message : DecodeCause → Text
  | .invalidStart => "invalid start byte"
  | .invalidContinuation => "invalid continuation byte"
  | .unexpectedEnd => "unexpected end of data"

/-- The wording of a decoding fault names the one octet, or the places of several. -/
def DecodeFault.message (fault : DecodeFault) : Text :=
  match fault.run with
  | [b] =>
    "'utf-8' codec can't decode byte 0x" ++ Text.hex 2 b.toNat ++ " in position "
      ++ Text.ofNat fault.position ++ ": " ++ fault.cause.message
  | run =>
    "'utf-8' codec can't decode bytes in position " ++ Text.ofNat fault.position ++ "-"
      ++ Text.ofNat (fault.position + run.length - 1) ++ ": " ++ fault.cause.message

end Utf8

end ControlChannel
