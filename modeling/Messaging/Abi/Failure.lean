import Messaging.Error
import Messaging.Message

/-!
# Failures of calls

Every call of the C interface ends in one status.  A call fails because of its arguments or
because the operation behind it does; the failure says why and determines the status.
-/

namespace Messaging.Abi

inductive Status where
  | success
  | error
  | securityError
  | illegalState
  | invalidClientId
  | invalidDestination
  | invalidSelector
  | messageEof
  | messageFormatError
  | messageNotReadable
  | messageNotWritable
  | unsupportedOperation
  | receiveTimedOut
  | incompleteRead
  | invalidMessageType
  | unknownAckType
  deriving DecidableEq, Repr

inductive Failure where
  | nullPointer
  | emptyKey
  | wrongKind (expected found : MessageKind)
  | unknownAckMode (code : Int32)
  | unknownDestinationKind (code : Int32)
  | unknownDeliveryMode (code : Int32)
  | notTemporary (kind : DestinationKind)
  | negativeTimeout (millis : Int64)
  | emptyBuffer
  | shortBuffer (size length : Nat)
  | invalidUtf8 (e : Text.Utf8.Error)
  | timedOut
  | incompleteRead
  | consumerClosed
  | runtime (e : Error)
  deriving DecidableEq, Repr

def Status.ofKind : ErrorKind → Status
  | .security => securityError
  | .illegalState => illegalState
  | .invalidClientId => invalidClientId
  | .invalidDestination => invalidDestination
  | .invalidSelector => invalidSelector
  | .messageEof => messageEof
  | .messageFormat => messageFormatError
  | .messageNotReadable => messageNotReadable
  | .messageNotWriteable => messageNotWritable
  | .unsupportedOperation => unsupportedOperation
  | .connectionFailed | .uri | .other => error

namespace Failure

def status : Failure → Status
  | wrongKind .. => .invalidMessageType
  | unknownAckMode _ => .unknownAckType
  | timedOut => .receiveTimedOut
  | incompleteRead => .incompleteRead
  | runtime e => .ofKind e.kind
  | nullPointer | emptyKey | unknownDestinationKind _ | unknownDeliveryMode _ | notTemporary _
  | negativeTimeout _ | emptyBuffer | shortBuffer .. | invalidUtf8 _ | consumerClosed => .error

def kindName : MessageKind → String
  | .plain => "Message"
  | .text => "Text"
  | .bytes => "Bytes"
  | .map => "Map"
  | .stream => "Stream"

def destinationName : DestinationKind → String
  | .topic => "Topic"
  | .queue => "Queue"
  | .temporaryTopic => "TemporaryTopic"
  | .temporaryQueue => "TemporaryQueue"

def message : Failure → String
  | nullPointer => "null pointer"
  | emptyKey => "key must not be empty"
  | wrongKind expected found =>
    s!"expected a {kindName expected} message, handle holds a {kindName found} message"
  | unknownAckMode code => s!"unknown acknowledgement mode {code}"
  | unknownDestinationKind code => s!"invalid argument: unknown destination type {code}"
  | unknownDeliveryMode code => s!"invalid argument: unknown delivery mode {code}"
  | notTemporary kind =>
    s!"invalid argument: {destinationName kind} is not a temporary destination type"
  | negativeTimeout millis => s!"invalid argument: negative timeout {millis}"
  | emptyBuffer => "invalid argument: buffer size is zero"
  | shortBuffer size length =>
    s!"invalid argument: buffer of {size} bytes cannot hold {length} bytes and a terminator"
  | invalidUtf8 e => "invalid utf-8: " ++ e.message
  | timedOut => "receive timed out"
  | incompleteRead => "no bytes left to read"
  | consumerClosed => "consumer closed while receiving"
  | runtime e => e.message

end Failure

end Messaging.Abi
