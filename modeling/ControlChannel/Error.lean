import ControlChannel.Json.Parser
import ControlChannel.Text.Utf8

/-!
# What can go wrong on a control channel

Errors are causes; their wording is in one function for each type.

* `ProtocolFault` — a message or a frame that does not keep to the protocol;
* `OsFault`, `PathFault` — what the operating system refuses, and for which path;
* `ControlError` — every failure of the control channel, with `ControlError.message`.
-/

namespace ControlChannel

/-- A message or a frame that does not keep to the protocol. -/
inductive ProtocolFault
  /-- The process id of an answer is of this kind instead of an integer. -/
  | pidNotInteger (kind : Text)
  | pidOutOfRange (pid : Int)
  | argsNotList
  | argumentNotText (kind : Text)
  | packetNotText (kind : Text)
  | invalidJson (error : Json.Error)
  | notObject (kind : Text)
  /-- No message has this tag; the tag is given as it is shown. -/
  | unknownTag (shown : Text)
  | wrongFields (tag : Text) (expected got : List Text)
  | unencodable (fault : Utf8.EncodeFault)
  | notUtf8 (fault : Utf8.DecodeFault)
  | tooLarge (size : Nat)
  | truncatedHeader (got : Nat)
  | truncatedBody (got declared : Nat)
  | wrongLength (declared carried : Nat)
  /-- A peer that was asked for its process id sent another message. -/
  | unexpectedAnswer (path tag : Text)
  /-- A server sent a message that only clients send, or that was not asked for. -/
  | unexpectedFromServer (tag : Text)
  deriving DecidableEq

namespace ProtocolFault

/-- The wording of a protocol fault. -/
def message : ProtocolFault → Text
  | pidNotInteger kind => "pid must be an integer, got " ++ kind
  | pidOutOfRange pid => "pid out of range: " ++ Text.ofInt pid
  | argsNotList => "args must be a sequence of strings"
  | argumentNotText kind => "argument must be a string, got " ++ kind
  | packetNotText kind => "packet text must be a string, got " ++ kind
  | invalidJson error => "Invalid JSON: " ++ error.message
  | notObject kind => "Expected a JSON object, got " ++ kind
  | unknownTag shown => "Unknown message type: " ++ shown
  | wrongFields tag expected got =>
    "Malformed " ++ tag ++ " message: expected fields " ++ Text.quotedList expected
      ++ ", got " ++ Text.quotedList got
  | unencodable fault => "Message is not encodable as UTF-8: " ++ fault.message
  | notUtf8 fault => "Payload is not valid UTF-8: " ++ fault.message
  | tooLarge size => "Message too large: " ++ Text.ofNat size ++ " bytes"
  | truncatedHeader got => "Truncated header: " ++ Text.ofNat got ++ " of 8 bytes"
  | truncatedBody got declared =>
    "Truncated frame: " ++ Text.ofNat got ++ " of " ++ Text.ofNat declared ++ " bytes"
  | wrongLength declared carried =>
    "Frame declares " ++ Text.ofNat declared ++ " bytes but carries " ++ Text.ofNat carried
  | unexpectedAnswer path tag => "Expected id.response from " ++ path ++ ", got " ++ tag
  | unexpectedFromServer tag => "Unexpected " ++ tag ++ " from server"

end ProtocolFault

/-- What the operating system refuses. -/
inductive OsFault
  | noEntry
  | noDevice
  | fileExists
  | notDirectory
  | isDirectory
  | nameTooLong
  | linkLoop
  | connectionRefused
  | connectionReset
  | connectionLost
  | brokenPipe
  | inputOutput
  | timedOut
  | addressTooLong
  /-- A path has no octets. -/
  | unencodable (fault : Utf8.EncodeFault)
  /-- A path holds an octet zero, which would end it. -/
  | nullOctet
  deriving DecidableEq

/-- The wording of what the operating system refuses. -/
def OsFault.message : OsFault → Text
  | noEntry => "[Errno 2] No such file or directory"
  | noDevice => "[Errno 6] No such device or address"
  | fileExists => "[Errno 17] File exists"
  | notDirectory => "[Errno 20] Not a directory"
  | isDirectory => "[Errno 21] Is a directory"
  | nameTooLong => "[Errno 36] File name too long"
  | linkLoop => "[Errno 40] Too many levels of symbolic links"
  | connectionRefused => "[Errno 111] Connection refused"
  | connectionReset => "[Errno 104] Connection reset by peer"
  | connectionLost => "Connection lost"
  | brokenPipe => "[Errno 32] Broken pipe"
  | inputOutput => "[Errno 5] Input/output error"
  | timedOut => []
  | addressTooLong => "AF_UNIX path too long"
  | unencodable fault => fault.message
  | nullOctet => "embedded null byte"

/-- Whether a text is refused before the system is even asked, because it can be no path. -/
def OsFault.isTextual : OsFault → Bool
  | unencodable _ => true
  | nullOctet => true
  | _ => false

/-- What the operating system refuses, and for which path. -/
structure PathFault where
  fault : OsFault
  path : Text
  deriving DecidableEq

/-- The wording of a refused path; what can be no path is not named. -/
def PathFault.message (f : PathFault) : Text :=
  if f.fault.isTextual then f.fault.message else f.fault.message ++ ": " ++ f.path.quoted

/-- A failure of the control channel. -/
inductive ControlError
  | protocol (fault : ProtocolFault)
  | closedByPeer
  /-- An established connection broke. -/
  | connectionFailed (path : Text) (cause : OsFault)
  /-- Nothing could be connected to where a service was expected. -/
  | notRunning (path : Text) (cause : OsFault)
  /-- An argument vector is no command: usage errors have status 2, requests for help 0. -/
  | badCommand (text : Text) (status : Int)
  /-- A live instance owns the socket; its process id is known if it answered. -/
  | alreadyRunning (path : Text) (pid : Option Int)
  /-- The socket cannot be connected to for a reason other than absence. -/
  | unreachable (path : Text) (cause : OsFault)
  /-- The time to connect was up. -/
  | connectTimedOut (path : Text)
  /-- The peer accepted the connection and did not answer in time. -/
  | unanswered (path timeout : Text)
  /-- The connection of a probe broke. -/
  | probeFailed (path : Text) (cause : OsFault)
  | notSocket (path : Text)
  | unbindable (path : Text) (cause : OsFault)
  deriving DecidableEq

/-- The wording of a failure. -/
def ControlError.message : ControlError → Text
  | protocol fault => fault.message
  | closedByPeer => "Connection closed by peer"
  | connectionFailed path cause => "Connection to " ++ path ++ " failed: " ++ cause.message
  | notRunning path cause => "Could not connect to " ++ path ++ ": " ++ cause.message
  | badCommand text _ => text
  | alreadyRunning path (some pid) =>
    "Another instance is already running (PID: " ++ Text.ofInt pid ++ ") on " ++ path
  | alreadyRunning path none => "Another instance is already listening on " ++ path
  | unreachable path cause => "Could not connect to " ++ path ++ ": " ++ cause.message
  | connectTimedOut path => "Timed out connecting to " ++ path
  | unanswered path timeout =>
    "Instance on " ++ path ++ " did not answer within " ++ timeout ++ "s"
  | probeFailed path cause => "Transport error while probing " ++ path ++ ": " ++ cause.message
  | notSocket path => path ++ " exists and is not a socket"
  | unbindable path cause => "Could not bind " ++ path ++ ": " ++ cause.message

end ControlChannel
