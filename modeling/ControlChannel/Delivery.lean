import ControlChannel.Frame.Reader

/-!
# What one side of a connection delivers

All that a side of a connection sees of the other one is the octets that arrive, and what comes
after them.

* `Manner`, `Delivery` — what comes after the octets, and both together;
* `Intake`, `Reply` — what becomes of the octets that are sent the other way, and what comes back;
* `Receipt`, `Delivery.receive` — what reading one frame gives;
* `Delivery.receive_length_lt` — **a message takes octets**, so that reading on comes to an end.
-/

namespace ControlChannel

/-- What comes after the octets. -/
inductive Manner
  | hangsUp
  /-- The connection stays, and nothing comes any more. -/
  | staysSilent
  /-- The connection is reset. -/
  | breaks
  deriving DecidableEq

/-- The octets that arrive, and what comes after them. -/
structure Delivery where
  bytes : Bytes := []
  manner : Manner := .hangsUp
  deriving DecidableEq

/-- What becomes of the octets that are sent to a peer. -/
inductive Intake
  | taken
  /-- Sending them fails, as when the peer has hung up by then. -/
  | refused (fault : OsFault)
  /-- They stay on the way: the peer reads none of them, and there is no room for all. -/
  | stalled
  deriving DecidableEq

/-- How a peer behaves on one connection: what it does with what is sent there, and what it
delivers. -/
structure Reply extends Delivery where
  intake : Intake := .taken
  deriving DecidableEq

/-- A peer of which no more is told than what it delivers takes what is sent. -/
instance : Coe Delivery Reply := ⟨fun delivery => { delivery with }⟩

/-- The messages that reach a peer, of those that are sent. -/
def Intake.passed (intake : Intake) (sent : List Message) : List Message :=
  match intake with
  | taken => sent
  | _ => []

/-- What reading one frame gives. -/
inductive Receipt
  /-- A message, and what is left. -/
  | message (m : Message) (rest : Delivery)
  | refused (fault : ReadFault)
  | broken
  /-- Nothing, for ever. -/
  | silence
  deriving DecidableEq

namespace Delivery

/-- A reader that all the octets have reached. -/
def reader (d : Delivery) : Reader := { buffer := d.bytes, ended := d.manner = .hangsUp }

/-- Reads one frame. -/
def receive [Json.Depth] (d : Delivery) : Receipt :=
  match d.reader.begin with
  | (some (.ok m), reader) => .message m { d with bytes := reader.buffer }
  | (some (.error fault), _) => .refused fault
  | (none, _) => if d.manner = .breaks then .broken else .silence

end Delivery

/-! ### A message takes octets -/

theorem Reader.split?_length {n : Nat} {buffer front rest : Bytes}
    (h : Reader.split? n buffer = some (front, rest)) : rest.length + n = buffer.length := by
  simp only [Reader.split?] at h
  split at h
  · rename_i full
    cases h
    rw [List.length_take] at full
    rw [List.length_drop]
    omega
  · cases h

theorem Reader.advanceBody_length_le [Json.Depth] {r r' : Reader} {size : Nat}
    {result : Option Reader.Result}
    (h : r.advanceBody size = (result, r')) : r'.buffer.length ≤ r.buffer.length := by
  unfold Reader.advanceBody at h
  split at h
  · rename_i parted
    have := Reader.split?_length parted
    cases h
    simp only
    omega
  · split at h <;> cases h <;> simp

theorem Reader.begin_length_lt [Json.Depth] {r r' : Reader} {m : Message} (idle : r.phase = none)
    (h : r.begin = (some (.ok m), r')) : r'.buffer.length < r.buffer.length := by
  simp only [Reader.begin, idle, Reader.advance, Reader.advanceHeader] at h
  split at h
  · rename_i parted
    have shorter := Reader.split?_length parted
    split at h
    · have := Reader.advanceBody_length_le h
      simp only [Frame.headerSize] at shorter
      simp only at this
      omega
    · cases h
  · split at h <;> cases h

theorem Delivery.receive_length_lt [Json.Depth] {d rest : Delivery} {m : Message}
    (h : d.receive = .message m rest) : rest.bytes.length < d.bytes.length := by
  unfold Delivery.receive at h
  split at h
  · rename_i read
    cases h
    exact Reader.begin_length_lt (r := d.reader) rfl read
  · cases h
  · split at h <;> cases h

end ControlChannel
