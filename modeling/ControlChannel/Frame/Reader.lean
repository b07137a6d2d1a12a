import ControlChannel.Frame

/-!
# Reading frames from a stream

Octets arrive in pieces of any size, and a read may begin before, between or after them.  A
reader keeps the octets that no read has taken yet and how far the read under way has come.

* `Reader`, `Reader.feed`, `Reader.finish`, `Reader.begin` — the state and its three events;
* `Reader.advance` — takes what the read under way needs, as soon as all of it is there;
* `Frame.cut` — the results of reading a whole octet string to its end, frame by frame.

**A failed read keeps what it took**: a header that declares too much takes its eight octets, a
bad payload its whole frame, and a frame cut short everything up to the end.
-/

namespace ControlChannel

/-- Why a read gives no message. -/
inductive ReadFault
  /-- The stream ended before a header. -/
  | closed
  | payload (fault : Message.PayloadFault)
  deriving DecidableEq

/-- The wording of a failed read. -/
def ReadFault.message : ReadFault → Text
  | .closed => ControlError.closedByPeer.message
  | .payload fault => fault.message

/-- How far a read has come: it waits for a header, or for a body of a declared length. -/
inductive ReadPhase
  | header
  | body (size : Nat)
  deriving DecidableEq

/-- A stream with the read under way. -/
structure Reader where
  /-- The octets that no read has taken yet. -/
  buffer : Bytes := []
  /-- No octets will follow. -/
  ended : Bool := false
  /-- The read under way. -/
  phase : Option ReadPhase := none
  deriving DecidableEq

namespace Reader

/-- The result of a read. -/
abbrev Result := Except ReadFault Message

/-- The octets of the buffer up to `n`, if there are so many, and those after them. -/
def split? (n : Nat) (buffer : Bytes) : Option (Bytes × Bytes) :=
  let taken := buffer.take n
  if taken.length = n then some (taken, buffer.drop n) else none

/-- Takes a body, when all of it is there or none will follow. -/
def advanceBody [Json.Depth] (r : Reader) (size : Nat) : Option Result × Reader :=
  match split? size r.buffer with
  | some (payload, rest) =>
    (some ((Frame.messageOf payload).mapError .payload), { r with buffer := rest, phase := none })
  | none =>
    if r.ended then
      (some (.error (.payload (.protocol (.truncatedBody r.buffer.length size)))),
        { r with buffer := [], phase := none })
    else (none, { r with phase := some (.body size) })

/-- Takes a header and then the body, each when all of it is there or none will follow. -/
def advanceHeader [Json.Depth] (r : Reader) : Option Result × Reader :=
  match split? Frame.headerSize r.buffer with
  | some (head, rest) =>
    match Frame.lengthOf head with
    | .ok size => advanceBody { r with buffer := rest } size
    | .error fault =>
      (some (.error (.payload (.protocol fault))), { r with buffer := rest, phase := none })
  | none =>
    if r.ended then
      let fault : ReadFault :=
        if r.buffer.isEmpty then .closed
        else .payload (.protocol (.truncatedHeader r.buffer.length))
      (some (.error fault), { r with buffer := [], phase := none })
    else (none, { r with phase := some .header })

/-- Lets the read under way, if there is one, come as far as it can. -/
def advance [Json.Depth] (r : Reader) : Option Result × Reader :=
  match r.phase with
  | none => (none, r)
  | some .header => r.advanceHeader
  | some (.body size) => r.advanceBody size

/-- Octets arrive. -/
def feed [Json.Depth] (r : Reader) (bytes : Bytes) : Option Result × Reader :=
  advance { r with buffer := r.buffer ++ bytes }

/-- The stream ends. -/
def finish [Json.Depth] (r : Reader) : Option Result × Reader := advance { r with ended := true }

/-- A read begins, unless one is under way. -/
def begin [Json.Depth] (r : Reader) : Option Result × Reader :=
  match r.phase with
  | none => advance { r with phase := some .header }
  | some _ => (none, r)

/-- An event on a stream. -/
inductive Event
  | feed (bytes : Bytes)
  | finish
  | begin
  deriving DecidableEq

/-- One event. -/
def step [Json.Depth] (r : Reader) : Event → Option Result × Reader
  | .feed bytes => r.feed bytes
  | .finish => r.finish
  | .begin => r.begin

/-- The results of a run of events, in order. -/
def run [Json.Depth] (r : Reader) : List Event → List Result
  | [] => []
  | event :: events =>
    let (result, r) := r.step event
    result.toList ++ run r events

end Reader

namespace Frame

/-- The result of reading one frame from octets that end, and the octets it leaves. -/
def first [Json.Depth] (bytes : Bytes) : Reader.Result × Bytes :=
  let head := bytes.take headerSize
  let rest := bytes.drop headerSize
  if bytes.isEmpty then (.error .closed, [])
  else if head.length < headerSize then
    (.error (.payload (.protocol (.truncatedHeader head.length))), [])
  else
    match lengthOf head with
    | .error fault => (.error (.payload (.protocol fault)), rest)
    | .ok size =>
      if rest.length < size then
        (.error (.payload (.protocol (.truncatedBody rest.length size))), [])
      else ((messageOf (rest.take size)).mapError .payload, rest.drop size)

/-- The results of the first `n` reads of octets that end. -/
def cut [Json.Depth] (bytes : Bytes) : Nat → List Reader.Result
  | 0 => []
  | n + 1 =>
    let (result, rest) := first bytes
    result :: cut rest n

end Frame

end ControlChannel
