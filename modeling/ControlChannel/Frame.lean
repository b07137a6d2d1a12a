import ControlChannel.Message

/-!
# Frames

A frame is a header of eight octets, the length of the payload with its least octet first,
and the payload: the JSON text of a message in UTF-8.

* `Frame.header`, `Frame.declared` — a length as octets and back;
* `Frame.encode`, `Frame.decode` — a message as one whole frame and back;
* `Frame.pieces` — an octet string cut at the places its headers name.
-/

namespace ControlChannel

namespace Frame

/-- The octets of a header. -/
def headerSize : Nat := 8

/-- The most octets a payload may have: ten times 2^20. -/
def mostBytes : Nat := 10 * 1024 * 1024

/-- The header that declares a payload of `n` octets. -/
def header (n : Nat) : Bytes := (List.range headerSize).map fun i => UInt8.ofNat (n / Nat.pow 256 i)

/-- The number that the octets of a header write. -/
def declared (bytes : Bytes) : Nat := bytes.foldr (fun b n => b.toNat + 256 * n) 0

/-- A message as one frame. -/
def encode (m : Message) : Except ProtocolFault Bytes :=
  match Utf8.encode m.render with
  | .error fault => .error (.unencodable fault)
  | .ok payload =>
    let size := payload.length
    if mostBytes < size then .error (.tooLarge size) else .ok (header size ++ payload)

/-- The length that a header declares, refused beyond the limit. -/
def lengthOf (head : Bytes) : Except ProtocolFault Nat :=
  let size := declared head
  if mostBytes < size then .error (.tooLarge size) else .ok size

/-- The message of a payload. -/
def messageOf [Json.Depth] (payload : Bytes) : Except Message.PayloadFault Message :=
  match Utf8.decode payload with
  | .error fault => .error (.protocol (.notUtf8 fault))
  | .ok text => Message.parse text

/-- The message of one whole frame: nothing may be missing or left over. -/
def decode [Json.Depth] (frame : Bytes) : Except Message.PayloadFault Message :=
  let head := frame.take headerSize
  if head.length < headerSize then .error (.protocol (.truncatedHeader head.length))
  else
    match lengthOf head with
    | .error fault => .error (.protocol fault)
    | .ok size =>
      let payload := frame.drop headerSize
      let carried := payload.length
      if carried = size then messageOf payload
      else .error (.protocol (.wrongLength size carried))

/-- A piece of an octet string: what a header with its payload holds, or fewer octets than a
header at the end. -/
inductive Piece
  | frame (result : Except Message.PayloadFault Message)
  | rest (bytes : Bytes)

/-- Cuts an octet string at the places its headers name; the last frame may be short. -/
def pieces [Json.Depth] (bytes : Bytes) : List Piece :=
  let head := bytes.take headerSize
  if headerSize ≤ head.length then
    let size := headerSize + declared head
    .frame (decode (bytes.take size)) :: pieces (bytes.drop size)
  else if bytes.isEmpty then [] else [.rest bytes]
termination_by bytes.length
decreasing_by
  have within := List.length_take_le' headerSize bytes
  simp only [List.length_drop, headerSize, head] at *
  omega

end Frame

end ControlChannel
