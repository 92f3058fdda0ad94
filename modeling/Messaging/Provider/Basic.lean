import Messaging.Broker.Basic

/-!
# The provider

All brokers, and all connections with what was made from them, as one value.  Everything is
referred to by its place in a list and stays there when it is closed.  An operation takes the
provider as it was and returns an outcome: an answer or an error, and the provider as it is then.
-/

namespace Messaging

abbrev BrokerId := Nat

abbrev SessionId := Nat

abbrev ProducerId := Nat

abbrev ConsumerId := Nat

abbrev BrowserId := Nat

inductive ConnectionState where
  | stopped
  | started
  | closed
  deriving DecidableEq, Repr

structure Connection where
  broker : BrokerId
  label : String
  clientId : String
  /-- Set once the client id was chosen or the connection was used. -/
  clientIdFixed : Bool
  state : ConnectionState := .stopped
  nextSession : Nat := 1
  nextTemporary : Nat := 1
  deriving DecidableEq, Repr

structure Delivery where
  tag : Nat
  store : StoreId
  envelope : Envelope
  deriving DecidableEq, Repr

structure Session where
  connection : ConnectionId
  /-- The place among the sessions of the connection. -/
  number : Nat
  mode : AckMode
  closed : Bool := false
  nextTag : Nat := 0
  delivered : List Delivery := []
  buffered : List (Destination × Message) := []
  nextProducer : Nat := 1
  deriving DecidableEq, Repr

structure ProducerConfig where
  deliveryMode : DeliveryMode := .persistent
  priority : Int32 := 4
  /-- In milliseconds; zero means forever. -/
  timeToLive : Int64 := 0
  disableMessageId : Bool := false
  disableTimestamp : Bool := false
  deriving DecidableEq, Repr

structure Producer where
  session : SessionId
  number : Nat
  destination : Option Destination
  config : ProducerConfig := {}
  nextSeq : Nat := 1
  closed : Bool := false
  deriving DecidableEq, Repr

inductive Source where
  | queue
  | topic (noLocal : Bool)
  | durable (key : DurableKey) (noLocal : Bool)
  deriving DecidableEq, Repr

structure Consumer where
  session : SessionId
  destination : Destination
  source : Source
  store : StoreId
  selector : Option Selector
  closed : Bool := false
  deriving DecidableEq, Repr

/-- A topic filters its messages when they are published, a queue when they are taken. -/
def Consumer.filter (c : Consumer) : Option Selector :=
  match c.source with
  | .queue => c.selector
  | .topic _ | .durable _ _ => none

structure Browser where
  session : SessionId
  queue : Destination
  store : StoreId
  selector : Option Selector
  seen : List Nat := []
  closed : Bool := false
  deriving DecidableEq, Repr

structure Provider where
  /-- Milliseconds since the epoch, or before it. -/
  clock : Int64 := 0
  labels : Nat := 0
  /-- The brokers that new connections find, by name. -/
  running : List (String × BrokerId) := []
  brokers : List Broker := []
  stores : List Store := []
  connections : List Connection := []
  sessions : List Session := []
  producers : List Producer := []
  consumers : List Consumer := []
  browsers : List Browser := []
  deriving DecidableEq, Repr

/-- An answer or an error, and the provider after the operation. -/
abbrev Outcome (α : Type) := Except Error α × Provider

namespace Provider

/-! ## Parts -/

def brokerAt (b : BrokerId) (w : Provider) : Broker := w.brokers[b]?.getD { name := "" }

def storeAt (s : StoreId) (w : Provider) : Store := w.stores[s]?.getD {}

def updateBroker (b : BrokerId) (f : Broker → Broker) (w : Provider) : Provider :=
  { w with brokers := w.brokers.modify b f }

def updateStore (s : StoreId) (f : Store → Store) (w : Provider) : Provider :=
  { w with stores := w.stores.modify s f }

def updateConnection (c : ConnectionId) (f : Connection → Connection) (w : Provider) : Provider :=
  { w with connections := w.connections.modify c f }

def updateSession (s : SessionId) (f : Session → Session) (w : Provider) : Provider :=
  { w with sessions := w.sessions.modify s f }

def updateProducer (p : ProducerId) (f : Producer → Producer) (w : Provider) : Provider :=
  { w with producers := w.producers.modify p f }

def updateConsumer (c : ConsumerId) (f : Consumer → Consumer) (w : Provider) : Provider :=
  { w with consumers := w.consumers.modify c f }

def updateBrowser (b : BrowserId) (f : Browser → Browser) (w : Provider) : Provider :=
  { w with browsers := w.browsers.modify b f }

def addStore (w : Provider) : StoreId × Provider :=
  (w.stores.length, { w with stores := w.stores ++ [{}] })

/-! ## Checks -/

/-- Go on with what a check yields, or fail and leave the provider as it is. -/
def check (r : Except Error α) (w : Provider) (f : α → Outcome β) : Outcome β :=
  match r with
  | .ok a => f a
  | .error e => (.error e, w)

def openConnection (c : ConnectionId) (w : Provider) : Except Error Connection :=
  match w.connections[c]? with
  | some connection =>
    if connection.state = .closed then .error (.closed .connection) else .ok connection
  | none => .error (.closed .connection)

def openSession (s : SessionId) (w : Provider) : Except Error (Session × Connection) :=
  match w.sessions[s]? with
  | some session =>
    if session.closed then .error (.closed .session)
    else (w.openConnection session.connection).map (session, ·)
  | none => .error (.closed .session)

/-! ## Time -/

/-- The time that messages are stamped with and expire by; before the epoch it is the epoch. -/
def now (w : Provider) : Int64 := if w.clock < 0 then 0 else w.clock

/-- Move the clock, which stops at the first and at the last instant. -/
def advance (millis : Int64) (w : Provider) : Provider :=
  { w with clock := Int64.ofIntClamp (w.clock.toInt + millis.toInt) }

end Provider

end Messaging
