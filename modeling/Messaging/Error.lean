import Messaging.Destination
import Messaging.Selector.Token
import Messaging.Text.Utf8
import Messaging.Uri.Error
import Messaging.ValueType

/-!
# Errors

The causes for which an operation on messages, sessions or connections fails.  Each cause belongs
to one kind; the text of an error is the wording of its kind around the wording of its cause.
-/

namespace Messaging

inductive ErrorKind where
  | security
  | illegalState
  | invalidClientId
  | invalidDestination
  | invalidSelector
  | messageEof
  | messageFormat
  | messageNotReadable
  | messageNotWriteable
  | unsupportedOperation
  | connectionFailed
  | uri
  | other
  deriving DecidableEq, Repr

inductive Part where
  | connection
  | session
  | producer
  | consumer
  | browser
  deriving DecidableEq, Repr

def Part.name : Part → String
  | connection => "connection"
  | session => "session"
  | producer => "producer"
  | consumer => "consumer"
  | browser => "browser"

inductive BodyKind where
  | text
  | bytes
  | map
  | stream
  deriving DecidableEq, Repr

def BodyKind.name : BodyKind → String
  | text => "text"
  | bytes => "bytes"
  | map => "map"
  | stream => "stream"

inductive Error where
  /- security -/
  | notAuthorized (user broker : String)
  /- illegal state -/
  | closed (part : Part)
  | clientIdFixed
  | notTransacted
  | transacted
  | alreadyConsumed (subscription : String)
  | stillConsumed (subscription : String)
  /- client ids -/
  | emptyClientId
  | clientIdInUse (id : String)
  /- destinations -/
  | deleted (d : Destination)
  | ownedElsewhere (d : Destination)
  | notDurable (d : Destination)
  | notBrowsable (d : Destination)
  | noSubscription (subscription : String)
  /- selectors -/
  | selector (e : Selector.Error)
  /- message bodies -/
  | endOfBody
  | notReadable
  | notWriteable
  | mismatch (stored wanted : ValueType)
  | unreadable (text : String) (wanted : ValueType)
  | noValue (name : String)
  | wrongBody (wanted : BodyKind)
  | partlyRead
  | zeroInText
  | textTooLong
  | malformedText
  | invalidUtf8 (e : Text.Utf8.Error)
  /- producers -/
  | noDestination
  | boundElsewhere (bound requested : Destination)
  | badPriority (priority : Int32)
  | badTimeToLive (millis : Int64)
  /- brokers and their addresses -/
  | noBroker (name : String)
  | uri (e : Uri.Error)
  | unsupportedScheme (scheme : String)
  | unnamedBroker (uri : String)
  | badOption (key value : String)
  | noLabel (cause : String)
  /- properties -/
  | emptyPropertyName
  deriving DecidableEq, Repr

namespace Error

def kind : Error → ErrorKind
  | notAuthorized .. => .security
  | closed .. | clientIdFixed | notTransacted | transacted | alreadyConsumed ..
  | stillConsumed .. => .illegalState
  | emptyClientId | clientIdInUse .. => .invalidClientId
  | deleted .. | ownedElsewhere .. | notDurable .. | notBrowsable ..
  | noSubscription .. => .invalidDestination
  | selector .. => .invalidSelector
  | endOfBody => .messageEof
  | notReadable => .messageNotReadable
  | notWriteable => .messageNotWriteable
  | mismatch .. | unreadable .. | noValue .. | wrongBody .. | partlyRead | zeroInText
  | textTooLong | malformedText | invalidUtf8 .. => .messageFormat
  | noDestination | boundElsewhere .. => .unsupportedOperation
  | noBroker .. => .connectionFailed
  | uri .. => .uri
  | badPriority .. | badTimeToLive .. | unsupportedScheme .. | unnamedBroker .. | badOption ..
  | noLabel .. | emptyPropertyName => .other

def cause : Error → String
  | notAuthorized user broker => s!"user `{user}` is not authorized on broker `{broker}`"
  | closed part => s!"{part.name} is closed"
  | clientIdFixed => "client id can only be set before the connection is used"
  | notTransacted => "session is not transacted"
  | transacted => "recover is not valid on a transacted session"
  | alreadyConsumed name => s!"durable subscription `{name}` already has an active consumer"
  | stillConsumed name => s!"durable subscription `{name}` has an active consumer"
  | emptyClientId => "client id must not be empty"
  | clientIdInUse id => s!"client id `{id}` is already in use"
  | deleted d => s!"{d.text} has been deleted"
  | ownedElsewhere d => s!"{d.text} belongs to another connection"
  | notDurable d => s!"durable subscriptions need a topic, got {d.text}"
  | notBrowsable d => s!"only queues can be browsed, got {d.text}"
  | noSubscription name => s!"no durable subscription named `{name}`"
  | selector e => e.message
  | endOfBody => "unexpected end of message body"
  | notReadable => "message body is write-only"
  | notWriteable => "message is read-only"
  | mismatch stored wanted => s!"cannot read {stored.name} as {wanted.name}"
  | unreadable text wanted => s!"cannot convert \"{text}\" to {wanted.name}"
  | noValue name => s!"no value named `{name}`"
  | wrongBody wanted => s!"not a {wanted.name} message"
  | partlyRead => "a byte array field is partially read"
  | zeroInText => "string contains a NUL byte"
  | textTooLong => "encoded string exceeds 65535 bytes"
  | malformedText => "malformed modified UTF-8"
  | invalidUtf8 e => e.message
  | noDestination => "producer has no destination"
  | boundElsewhere bound requested =>
    s!"producer is bound to {bound.text}, cannot send to {requested.text}"
  | badPriority priority => s!"priority must be between 0 and 9, got {priority}"
  | badTimeToLive millis => s!"time to live must not be negative, got {millis}"
  | noBroker name => s!"no broker named `{name}` is running"
  | uri e => e.message
  | unsupportedScheme scheme => s!"unsupported transport scheme `{scheme}`"
  | unnamedBroker text => s!"`{text}` does not name a broker"
  | badOption key value => s!"option `{key}` expects true or false, got `{value}`"
  | noLabel cause => s!"failed to generate connection id: {cause}"
  | emptyPropertyName => "property name must not be empty"

def preamble : ErrorKind → String
  | .security => "security: "
  | .illegalState => "illegal state: "
  | .invalidClientId => "invalid client id: "
  | .invalidDestination => "invalid destination: "
  | .invalidSelector => "invalid selector: "
  | .messageFormat => "message format: "
  | .unsupportedOperation => "unsupported operation: "
  | .connectionFailed => "connection failed: "
  | .uri => "invalid uri: "
  | .messageEof | .messageNotReadable | .messageNotWriteable | .other => ""

def message (e : Error) : String := preamble e.kind ++ e.cause

end Error

end Messaging
