import ControlChannel.Error
import ControlChannel.Json.Printer

/-!
# Control messages

The closed set of five messages that a client and a service exchange, and their JSON form: an
object with the member `type` and the fields of its kind.

* `Message`, `Tag` — the messages and the names of their kinds;
* `Message.ofField` — a message from a field of any value, refused unless it fits;
* `Message.toJson`, `Message.render` — the JSON form, the tag first;
* `Message.ofJson`, `Message.parse` — the way back.  **Nothing is coerced**: a missing, an extra
  or a wrongly typed field is refused, and so is an unknown tag.
-/

namespace ControlChannel

/-- A process id as it travels: an unsigned number of 32 bits. -/
abbrev Pid := Fin 0x100000000

/-- A control message. -/
inductive Message
  /-- Asks the listening process for its process id. -/
  | idRequest
  | idResponse (pid : Pid)
  /-- The caller's whole argument vector, program name included. -/
  | args (vector : List Text)
  /-- One piece of streamed output. -/
  | packet (text : Text)
  /-- Nothing more will be sent on this connection. -/
  | closeSocket
  deriving DecidableEq

/-- The kinds of messages. -/
inductive Tag
  | idRequest
  | idResponse
  | args
  | packet
  | closeSocket
  deriving DecidableEq

namespace Tag

/-- The name of a kind on the wire. -/
def name : Tag → Text
  | idRequest => "id.request"
  | idResponse => "id.response"
  | args => "args"
  | packet => "packet"
  | closeSocket => "close"

/-- All kinds. -/
def all : List Tag := [idRequest, idResponse, args, packet, closeSocket]

/-- The kind of this name. -/
def ofName? (name : Text) : Option Tag := all.find? (·.name = name)

/-- The names of the fields of a kind. -/
def fieldNames : Tag → List Text
  | idRequest => []
  | idResponse => ["pid"]
  | args => ["args"]
  | packet => ["text"]
  | closeSocket => []

end Tag

namespace Message

/-- The kind of a message. -/
def tag : Message → Tag
  | idRequest => .idRequest
  | idResponse _ => .idResponse
  | args _ => .args
  | packet _ => .packet
  | closeSocket => .closeSocket

/-! ### From fields of any value -/

/-- A process id from a value: an integer in range, and no truth value. -/
def pidOf : Json → Except ProtocolFault Pid
  | .int pid =>
    if h : 0 ≤ pid ∧ pid.toNat < 0x100000000 then .ok ⟨pid.toNat, h.2⟩ else .error (.pidOutOfRange pid)
  | other => .error (.pidNotInteger other.kindName)

/-- One argument from a value. -/
def argumentOf : Json → Except ProtocolFault Text
  | .str text => .ok text
  | other => .error (.argumentNotText other.kindName)

/-- An argument vector from a value: a list whose items are all texts. -/
def argsOf : Json → Except ProtocolFault (List Text)
  | .list items => items.mapM argumentOf
  | _ => .error .argsNotList

/-- The text of a packet from a value. -/
def packetOf : Json → Except ProtocolFault Text
  | .str text => .ok text
  | other => .error (.packetNotText other.kindName)

/-- A message of a kind from its one field; kinds without a field ignore it. -/
def ofField (tag : Tag) (field : Json) : Except ProtocolFault Message :=
  match tag with
  | .idRequest => .ok .idRequest
  | .idResponse => (pidOf field).map idResponse
  | .args => (argsOf field).map args
  | .packet => (packetOf field).map packet
  | .closeSocket => .ok .closeSocket

/-- The value that a field has when none is given. -/
def defaultField : Tag → Json
  | .idResponse => .int 0
  | .args => .list []
  | .packet => .str []
  | _ => .null

/-! ### The JSON form -/

/-- The fields of a message. -/
def fields : Message → List (Text × Json)
  | idRequest => []
  | idResponse pid => [("pid", .int pid.val)]
  | args vector => [("args", .list (vector.map .str))]
  | packet text => [("text", .str text)]
  | closeSocket => []

/-- The members of the JSON form: the tag, then the fields. -/
def members (m : Message) : List (Text × Json) := ("type", .str m.tag.name) :: m.fields

/-- The JSON form of a message. -/
def toJson (m : Message) : Json := .object m.members

/-- A message as JSON text. -/
def render (m : Message) : Text := m.toJson.render

/-- Why a payload is no message.  A tag that is a list or an object cannot even be looked up,
which is a refusal of its own kind. -/
inductive PayloadFault
  | protocol (fault : ProtocolFault)
  | compositeTag (kind : Text)
  deriving DecidableEq

/-- The wording of a refused payload. -/
def PayloadFault.message : PayloadFault → Text
  | .protocol fault => fault.message
  | .compositeTag kind => "unhashable type: " ++ kind.quoted

/-- The order of texts by their code points. -/
def textLe : Text → Text → Bool
  | [], _ => true
  | _ :: _, [] => false
  | c :: s, d :: t => c.val < d.val || (c = d && textLe s t)

/-- A message of a named kind from the members of an object other than its tag. -/
def ofMembers (name : Text) (fields : List (Text × Json)) : Except PayloadFault Message :=
  match Tag.ofName? name with
  | none => .error (.protocol (.unknownTag name.quoted))
  | some tag =>
    let got := fields.map (·.1)
    if got = tag.fieldNames then
      (ofField tag ((fields.head?.map (·.2)).getD .null)).mapError .protocol
    else .error (.protocol (.wrongFields name tag.fieldNames (got.mergeSort textLe)))

/-- The message that a JSON value is the form of. -/
def ofJson : Json → Except PayloadFault Message
  | .object members =>
    let fields := members.filter (·.1 ≠ ("type" : Text))
    match (Json.member? "type" members).getD .null with
    | .str name => ofMembers name fields
    | .list items => .error (.compositeTag (Json.list items).kindName)
    | .object members => .error (.compositeTag (Json.object members).kindName)
    | other => .error (.protocol (.unknownTag other.display))
  | other => .error (.protocol (.notObject other.kindName))

/-- The message that a JSON text is the form of. -/
def parse [Json.Depth] (text : Text) : Except PayloadFault Message :=
  match Json.parse text with
  | .ok value => ofJson value
  | .error error => .error (.protocol (.invalidJson error))

end Message

end ControlChannel
