import Messaging.Abi.Interface

/-!
# Calls on messages of any kind
-/

namespace Messaging.Abi

open Effect

/-- Headers that are texts; a null pointer empties them. -/
inductive TextHeader where
  | correlationId
  | messageId
  | messageType

def TextHeader.get (h : Headers) : TextHeader → String
  | correlationId => h.correlationId
  | messageId => h.messageId
  | messageType => h.messageType

def TextHeader.set (s : String) (h : Headers) : TextHeader → Headers
  | correlationId => { h with correlationId := s }
  | messageId => { h with messageId := s }
  | messageType => { h with messageType := s }

inductive IntHeader where
  | deliveryMode
  | priority
  | redelivered

def IntHeader.get (h : Headers) : IntHeader → Int32
  | deliveryMode => h.deliveryMode.code
  | priority => h.priority
  | redelivered => if h.redelivered then 1 else 0

def IntHeader.set (n : Int32) (h : Headers) : IntHeader → Except Failure Headers
  | deliveryMode => do return { h with deliveryMode := ← Abi.deliveryMode n }
  | priority => .ok { h with priority := n }
  | redelivered => .ok { h with redelivered := truth n }

inductive TimeHeader where
  | expiration
  | timestamp

def TimeHeader.get (h : Headers) : TimeHeader → Int64
  | expiration => h.expiration
  | timestamp => h.timestamp

def TimeHeader.set (n : Int64) (h : Headers) : TimeHeader → Headers
  | expiration => { h with expiration := n }
  | timestamp => { h with timestamp := n }

inductive DestinationHeader where
  | destination
  | replyTo

def DestinationHeader.get (h : Headers) : DestinationHeader → Option Destination
  | destination => h.destination
  | replyTo => h.replyTo

def DestinationHeader.set (d : Option Destination) (h : Headers) : DestinationHeader → Headers
  | destination => { h with destination := d }
  | replyTo => { h with replyTo := d }

inductive MessageCall where
  | createPlain (s : Option SessionId) (out : Out)
  | createText (s : Option SessionId) (text : CString) (out : Out)
  | createBytes (s : Option SessionId) (bytes : Bytes) (length : Nat) (out : Out)
  | createMap (s : Option SessionId) (out : Out)
  | createStream (s : Option SessionId) (out : Out)
  | clone (m : Option MessageId) (out : Out)
  | getKind (m : Option MessageId) (out : Out)
  | acknowledge (m : Option MessageId)
  | clearBody (m : Option MessageId)
  | clearProperties (m : Option MessageId)
  | countProperties (m : Option MessageId) (out : Out)
  | getPropertyNames (m : Option MessageId) (out : Out × Out)
  | hasProperty (m : Option MessageId) (key : CString) (out : Out)
  | getProperty (type : Scalar) (m : Option MessageId) (key : CString) (out : Out)
  | getTextProperty (m : Option MessageId) (key : CString) (b : Buffer)
  | setProperty (m : Option MessageId) (key : CString) (v : Value)
  | setTextProperty (m : Option MessageId) (key value : CString)
  | getText (h : TextHeader) (m : Option MessageId) (b : Buffer)
  | setText (h : TextHeader) (m : Option MessageId) (s : CString)
  | getInt (h : IntHeader) (m : Option MessageId) (out : Out)
  | setInt (h : IntHeader) (m : Option MessageId) (n : Int32)
  | getTime (h : TimeHeader) (m : Option MessageId) (out : Out)
  | setTime (h : TimeHeader) (m : Option MessageId) (n : Int64)
  | getDestination (h : DestinationHeader) (m : Option MessageId) (out : Out)
  | setDestination (h : DestinationHeader) (m : Option MessageId) (d : Option Destination)

def writeNames (out : Out × Out) (t : ValueTable) : Except Failure Effect := do
  out.1.check
  out.2.check
  return answer [.names t.names, .size t.size]

namespace MessageCall

def create (s : Option SessionId) (make : Except Failure Message) (out : Out) (w : Interface) :
    Except Failure Effect := do
  let s ← given s
  let m ← make
  _ ← runtime (w.provider.openSession s)
  out.check
  return hand (.ofMessage m)

def setHeaders (m : Option MessageId) (f : Headers → Except Failure Headers) (w : Interface) :
    Except Failure Effect := do
  let (m, message) ← w.message m
  let headers ← f message.headers
  return store m { message with headers } (answer [])

def check (w : Interface) : MessageCall → Except Failure Effect
  | createPlain s out => create s (.ok .plain) out w
  | createText s text out => create s (return .ofText (← text.textOrEmpty)) out w
  | createBytes s bytes length out => create s (return .ofBytes (← bytes.take length)) out w
  | createMap s out => create s (.ok .ofMap) out w
  | createStream s out => create s (.ok .ofStream) out w
  | clone m out => do
    let (_, h) ← w.handle m
    out.check
    return hand h
  | getKind m out => do
    let (_, h) ← w.handle m
    return write out (.scalar (.int h.kind.code))
  | acknowledge m => do
    let (_, message) ← w.message m
    return act (·.acknowledge message)
  | clearBody m => do
    let (m, message) ← w.message m
    return store m message.clearBody (answer [])
  | clearProperties m => do
    let (m, message) ← w.message m
    return store m message.clearProperties (answer [])
  | countProperties m out => do
    let (_, message) ← w.message m
    return write out (.size message.properties.size)
  | getPropertyNames m out => do
    let (_, message) ← w.message m
    writeNames out message.properties
  | hasProperty m key out => do
    let (_, message) ← w.message m
    let key ← key.key
    return write out (ofTruth (message.properties.contains key))
  | getProperty type m key out => do
    let (_, message) ← w.message m
    let key ← key.key
    let v ← runtime (message.properties.getScalar type key)
    return write out (ofValue v)
  | getTextProperty m key b => do
    let (_, message) ← w.message m
    let key ← key.key
    return copy b (message.properties.getString key)
  | setProperty m key v => do
    let (m, message) ← w.message m
    let key ← key.key
    let message ← runtime (message.setProperty key v)
    return store m message (answer [])
  | setTextProperty m key value => do
    let (m, message) ← w.message m
    let key ← key.key
    let value ← value.text
    let message ← runtime (message.setProperty key (.string value))
    return store m message (answer [])
  | getText h m b => do
    let (_, message) ← w.message m
    return copy b (.ok (h.get message.headers))
  | setText h m s => setHeaders m (fun headers => return h.set (← s.textOrEmpty) headers) w
  | getInt h m out => do
    let (_, message) ← w.message m
    return write out (.scalar (.int (h.get message.headers)))
  | setInt h m n => setHeaders m (h.set n ·) w
  | getTime h m out => do
    let (_, message) ← w.message m
    return write out (.scalar (.long (h.get message.headers)))
  | setTime h m n => setHeaders m (fun headers => .ok (h.set n headers)) w
  | getDestination h m out => do
    let (_, message) ← w.message m
    match h.get message.headers with
    | some d => return write out (.handle (.destination d))
    | none => return write out .null
  | setDestination h m d => setHeaders m (fun headers => .ok (h.set d headers)) w

end MessageCall

end Messaging.Abi
