import Messaging.Body.Bytes
import Messaging.Body.Stream
import Messaging.Mode
import Messaging.ValueTable

/-!
# Messages

Headers, properties and one of five bodies.  A message that a broker hands out is frozen: its
properties and its body are read-only until they are cleared.  Text and map bodies are guarded by
a flag of the message; bytes and stream bodies guard themselves by being in the state of reading.
-/

namespace Messaging

inductive MessageKind where
  | plain
  | text
  | bytes
  | map
  | stream
  deriving DecidableEq, Repr

inductive Body where
  | empty
  | text (s : String)
  | bytes (b : BytesBody)
  | map (t : ValueTable)
  | stream (b : StreamBody)
  deriving DecidableEq, Repr

def Body.kind : Body → MessageKind
  | empty => .plain
  | text _ => .text
  | bytes _ => .bytes
  | map _ => .map
  | stream _ => .stream

/-- What acknowledges a delivery: the session that made it and its number there. -/
structure AckToken where
  session : Nat
  tag : Nat
  deriving DecidableEq, Repr

structure Headers where
  correlationId : String := ""
  deliveryMode : DeliveryMode := .persistent
  destination : Option Destination := none
  /-- The time of expiry in milliseconds; zero means never. -/
  expiration : Int64 := 0
  messageId : String := ""
  /-- Zero is the lowest priority and nine the highest. -/
  priority : Int32 := 4
  redelivered : Bool := false
  replyTo : Option Destination := none
  timestamp : Int64 := 0
  messageType : String := ""
  deriving DecidableEq, Repr

structure Message where
  headers : Headers := {}
  properties : ValueTable := {}
  propertiesFrozen : Bool := false
  bodyFrozen : Bool := false
  body : Body := .empty
  ack : Option AckToken := none
  deriving DecidableEq, Repr

namespace Message

def plain : Message := {}

def ofText (s : String) : Message := { body := .text s }

def ofBytes (bytes : List UInt8) : Message := { body := .bytes (.ofBytes bytes) }

def ofMap : Message := { body := .map .empty }

def ofStream : Message := { body := .stream .empty }

def kind (m : Message) : MessageKind := m.body.kind

/-! ## Bodies -/

def getText (m : Message) : Except Error String :=
  match m.body with
  | .text s => .ok s
  | _ => .error (.wrongBody .text)

def setText (s : String) (m : Message) : Except Error Message :=
  match m.body with
  | .text _ => if m.bodyFrozen then .error .notWriteable else .ok { m with body := .text s }
  | _ => .error (.wrongBody .text)

def bytesBody (m : Message) : Except Error BytesBody :=
  match m.body with
  | .bytes b => .ok b
  | _ => .error (.wrongBody .bytes)

def streamBody (m : Message) : Except Error StreamBody :=
  match m.body with
  | .stream b => .ok b
  | _ => .error (.wrongBody .stream)

def mapBody (m : Message) : Except Error ValueTable :=
  match m.body with
  | .map t => .ok t
  | _ => .error (.wrongBody .map)

def mapBodyToWrite (m : Message) : Except Error ValueTable :=
  match m.body with
  | .map t => if m.bodyFrozen then .error .notWriteable else .ok t
  | _ => .error (.wrongBody .map)

def clearBody (m : Message) : Message :=
  let body :=
    match m.body with
    | .empty => .empty
    | .text _ => .text ""
    | .bytes b => .bytes b.clear
    | .map _ => .map .empty
    | .stream b => .stream b.clear
  { m with body := body, bodyFrozen := false }

/-! ## Properties -/

def setProperty (name : String) (v : Value) (m : Message) : Except Error Message :=
  if name.isEmpty then .error .emptyPropertyName
  else if m.propertiesFrozen then .error .notWriteable
  else .ok { m with properties := m.properties.insert name v }

def clearProperties (m : Message) : Message :=
  { m with properties := .empty, propertiesFrozen := false }

/-! ## Delivery -/

/-- The message as a broker keeps it: read-only, and ready to be read from the start. -/
def freeze (m : Message) : Message :=
  let body :=
    match m.body with
    | .bytes b => .bytes b.reset
    | .stream b => .stream b.reset
    | other => other
  { m with propertiesFrozen := true, bodyFrozen := true, body := body }

def isExpired (now : Int64) (m : Message) : Bool :=
  m.headers.expiration != 0 && m.headers.expiration ≤ now

def markRedelivered (m : Message) : Message :=
  { m with headers := { m.headers with redelivered := true } }

/-! ## View of selectors -/

private def nonempty (s : String) : Option Value :=
  if s.isEmpty then none else some (.string s)

def lookup (m : Message) (identifier : String) : Option Value :=
  match identifier with
  | "JMSMessageID" => nonempty m.headers.messageId
  | "JMSCorrelationID" => nonempty m.headers.correlationId
  | "JMSType" => nonempty m.headers.messageType
  | "JMSPriority" => some (.int m.headers.priority)
  | "JMSTimestamp" => some (.long m.headers.timestamp)
  | "JMSExpiration" => some (.long m.headers.expiration)
  | "JMSRedelivered" => some (.boolean m.headers.redelivered)
  | "JMSDeliveryMode" => some (.string m.headers.deliveryMode.word)
  | name => m.properties.get? name

end Message

end Messaging
