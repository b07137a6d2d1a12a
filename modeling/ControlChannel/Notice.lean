import ControlChannel.Frame.Reader

/-!
# Notices

What the program writes to its log when something is wrong but goes on.  A notice is the cause;
its wording and its level are functions of it.
-/

namespace ControlChannel

/-- How grave a notice is. -/
inductive Severity
  | warning
  | error
  deriving DecidableEq

/-- The name of a level. -/
def Severity.name : Severity → Text
  | warning => "WARNING"
  | error => "ERROR"

/-- Why a text was not delivered to a client. -/
inductive DeliveryFault
  | protocol (fault : ProtocolFault)
  | system (fault : OsFault)
  deriving DecidableEq

/-- The wording of a failed delivery. -/
def DeliveryFault.message : DeliveryFault → Text
  | protocol fault => fault.message
  | system fault => fault.message

/-- Something that the log tells. -/
inductive Notice
  /-- A setting is no number; the default is used. -/
  | invalidSetting (name value : Text)
  /-- A setting is zero or below; the default is used. -/
  | nonPositiveSetting (name value : Text)
  | sentAfterClose (client : Text)
  | dropped (client : Text) (fault : ProtocolFault)
  | sendFailed (client : Text) (fault : OsFault)
  | closeFailed (client : Text) (fault : OsFault)
  | closesPending (count : Nat)
  | silentClient (client seconds : Text)
  | badRequest (client : Text) (fault : ReadFault)
  /-- The connection broke before a request. -/
  | brokenRequest (client : Text) (fault : OsFault)
  | unexpectedRequest (client tag : Text)
  /-- The process id could not be written to the client that asked for it. -/
  | answerFailed (client : Text) (fault : OsFault)
  /-- Serving a connection failed in a way that no one answers for. -/
  | unhandled
  | parseReportFailed (client : Text) (fault : DeliveryFault)
  | handlerBrokeProtocol (client message : Text)
  | handlerFailed (client : Text)
  | handlerReturned (client kind : Text)
  deriving DecidableEq

namespace Notice

/-- How grave it is. -/
def level : Notice → Severity
  | unhandled => .error
  | handlerFailed _ => .error
  | _ => .warning

/-- The wording of a notice. -/
def message : Notice → Text
  | invalidSetting name value => "Ignoring invalid " ++ name ++ "=" ++ value.quoted
  | nonPositiveSetting name value => "Ignoring non-positive " ++ name ++ "=" ++ value.quoted
  | sentAfterClose client => "send() on closed client " ++ client ++ " dropped"
  | dropped client fault => "Dropped packet for " ++ client ++ ": " ++ fault.message
  | sendFailed client fault => "Send error to " ++ client ++ ": " ++ fault.message
  | closeFailed client fault => "Close notification to " ++ client ++ " failed: " ++ fault.message
  | closesPending count => Text.ofNat count ++ " close notification(s) still pending at shutdown"
  | silentClient client seconds => client ++ " sent no request within " ++ seconds ++ "s"
  | badRequest client fault => "Bad request from " ++ client ++ ": " ++ fault.message
  | brokenRequest client fault => "Bad request from " ++ client ++ ": " ++ fault.message
  | unexpectedRequest client tag =>
    "Protocol violation from " ++ client ++ ": unexpected " ++ tag ++ " request"
  | answerFailed client fault =>
    "Could not answer IdRequest from " ++ client ++ ": " ++ fault.message
  | unhandled => "Unhandled error while serving a control connection"
  | parseReportFailed client fault =>
    "Could not report parse error to " ++ client ++ ": " ++ fault.message
  | handlerBrokeProtocol client message =>
    "Protocol error while handling " ++ client ++ ": " ++ message
  | handlerFailed client => "Command handler failed for " ++ client
  | handlerReturned client kind =>
    "Command handler for " ++ client ++ " returned " ++ kind ++ ", expected bool"

/-- A notice as a line of the log. -/
def line (n : Notice) : Text := n.level.name ++ ": " ++ n.message

end Notice

end ControlChannel
