import Messaging.BrokerUri
import Messaging.Broker.Store

/-!
# Brokers

What a broker knows: its queues and the subscriptions to its topics with their stores, the
durable subscriptions, the live temporary destinations and the client ids in use.  Stores and
connections are referred to by number.
-/

namespace Messaging

abbrev StoreId := Nat

abbrev ConnectionId := Nat

structure Subscription where
  topic : Destination
  store : StoreId
  selector : Option Selector
  /-- The connection whose own messages are left out. -/
  noLocal : Option ConnectionId
  deriving DecidableEq, Repr

def Subscription.accepts (s : Subscription) (m : Message) (origin : ConnectionId) : Bool :=
  s.noLocal != some origin && Selector.admits s.selector m

structure DurableKey where
  clientId : String
  name : String
  deriving DecidableEq, Repr

structure Durable where
  key : DurableKey
  topic : Destination
  selector : Option Selector
  noLocal : Bool
  store : StoreId
  active : Bool
  deriving DecidableEq, Repr

/-- The text of the selector, which tells whether a later consumer asks for the same. -/
def Durable.source (d : Durable) : Option String := d.selector.map (·.source)

structure Broker where
  name : String
  credentials : Option Credentials := none
  queues : List (Destination × StoreId) := []
  /-- The subscriptions that topics feed, in the order in which they were attached. -/
  attached : List Subscription := []
  durables : List Durable := []
  temporaries : List (Destination × ConnectionId) := []
  clientIds : List String := []
  deriving DecidableEq, Repr

namespace Broker

/-! ## Clients -/

def authenticate (username password : String) (b : Broker) : Except Error Unit :=
  match b.credentials with
  | none => .ok ()
  | some c =>
    if c.username = username ∧ c.password = password then .ok ()
    else .error (.notAuthorized username b.name)

def checkClientId (id : String) (b : Broker) : Except Error Unit :=
  if id.isEmpty then .error .emptyClientId
  else if b.clientIds.contains id then .error (.clientIdInUse id)
  else .ok ()

def addClientId (id : String) (b : Broker) : Broker := { b with clientIds := id :: b.clientIds }

def removeClientId (id : String) (b : Broker) : Broker :=
  { b with clientIds := b.clientIds.filter (· != id) }

/-! ## Temporary destinations -/

def addTemporary (d : Destination) (owner : ConnectionId) (b : Broker) : Broker :=
  { b with temporaries := (d, owner) :: b.temporaries }

def owner? (d : Destination) (b : Broker) : Option ConnectionId := b.temporaries.lookup d

def isLive (d : Destination) (b : Broker) : Bool := !d.isTemporary || (b.owner? d).isSome

def checkConsumable (d : Destination) (c : ConnectionId) (b : Broker) : Except Error Unit :=
  if !d.isTemporary then .ok ()
  else
    match b.owner? d with
    | none => .error (.deleted d)
    | some owner => if owner = c then .ok () else .error (.ownedElsewhere d)

def isOwned (c : ConnectionId) (b : Broker) (d : Destination) : Bool :=
  b.temporaries.any fun t => t.1 == d && t.2 == c

def releaseTemporaries (c : ConnectionId) (b : Broker) : Broker :=
  { b with
    temporaries := b.temporaries.filter (·.2 != c)
    queues := b.queues.filter fun q => !isOwned c b q.1
    attached := b.attached.filter fun s => !isOwned c b s.topic }

/-! ## Queues and topics -/

def queue? (d : Destination) (b : Broker) : Option StoreId := b.queues.lookup d

def addQueue (d : Destination) (s : StoreId) (b : Broker) : Broker :=
  { b with queues := (d, s) :: b.queues }

def targets (topic : Destination) (m : Message) (origin : ConnectionId) (b : Broker) :
    List StoreId :=
  (b.attached.filter fun s => s.topic == topic && s.accepts m origin).map (·.store)

def attach (s : Subscription) (b : Broker) : Broker := { b with attached := b.attached ++ [s] }

/-- A store is fed by one subscription at most, and so tells which one to remove. -/
def detach (s : StoreId) (b : Broker) : Broker :=
  { b with attached := b.attached.filter (·.store != s) }

/-! ## Durable subscriptions -/

def durable? (key : DurableKey) (b : Broker) : Option Durable :=
  b.durables.find? (·.key == key)

def putDurable (d : Durable) (b : Broker) : Broker :=
  { b with durables := d :: b.durables.filter (·.key != d.key) }

def removeDurable (key : DurableKey) (b : Broker) : Broker :=
  { b with durables := b.durables.filter (·.key != key) }

def activate (d : Durable) (noLocal : Option ConnectionId) (b : Broker) : Broker :=
  let previous := (b.durable? d.key).map (·.store)
  let b := match previous with
    | some s => b.detach s
    | none => b
  (b.attach ⟨d.topic, d.store, d.selector, noLocal⟩).putDurable d

/--
Take the consumer off a durable subscription.  While there is none, no connection is local, so a
subscription that left messages out is attached anew without doing so.
-/
def deactivate (key : DurableKey) (b : Broker) : Broker :=
  match b.durable? key with
  | none => b
  | some d =>
    let b := b.putDurable { d with active := false }
    if d.noLocal then (b.detach d.store).attach ⟨d.topic, d.store, d.selector, none⟩ else b

end Broker

end Messaging
