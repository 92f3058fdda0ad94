import Messaging.Provider.Publish

/-!
# Consumers

A consumer takes messages from the store of a queue, of a subscription of its own or of a durable
subscription.  What it takes is handed out by its session, which remembers the delivery unless it
settles deliveries at once.
-/

namespace Messaging

inductive Poll where
  | waiting
  /-- A message, or nothing because the consumer was closed. -/
  | finished (m : Option Message)
  deriving DecidableEq, Repr

namespace Provider

/-! ## Opening -/

def addConsumer (c : Consumer) (w : Provider) : ConsumerId × Provider :=
  (w.consumers.length, { w with consumers := w.consumers ++ [c] })

def localTo (noLocal : Bool) (c : ConnectionId) : Option ConnectionId :=
  if noLocal then some c else none

def subscribe (b : BrokerId) (topic : Destination) (selector : Option Selector)
    (noLocal : Option ConnectionId) (w : Provider) : StoreId × Provider :=
  let (s, w) := w.addStore
  (s, w.updateBroker b (·.attach ⟨topic, s, selector, noLocal⟩))

def createConsumer (s : SessionId) (d : Destination) (selector : Option String)
    (noLocal : Bool) (w : Provider) : Outcome ConsumerId :=
  check (w.openSession s) w fun (session, connection) =>
  check (Selector.parseOptional selector) w fun selector =>
  check ((w.brokerAt connection.broker).checkConsumable d session.connection) w fun _ =>
    if d.isQueue then
      let (store, w) := w.queueStore connection.broker d
      let (c, w) := w.addConsumer ⟨s, d, .queue, store, selector, false⟩
      (.ok c, w)
    else
      let (store, w) :=
        w.subscribe connection.broker d selector (localTo noLocal session.connection)
      let (c, w) := w.addConsumer ⟨s, d, .topic noLocal, store, selector, false⟩
      (.ok c, w)

/--
The store for a consumer of a durable subscription: the one that it has, if its topic and the
text of its selector are the same, and a new one otherwise.
-/
def durableStore (b : BrokerId) (key : DurableKey) (topic : Destination)
    (selector : Option Selector) (w : Provider) : Outcome StoreId :=
  match (w.brokerAt b).durable? key with
  | none =>
    let (s, w) := w.addStore
    (.ok s, w)
  | some d =>
    if d.active then (.error (.alreadyConsumed key.name), w)
    else if d.topic = topic ∧ d.source = selector.map (·.source) then (.ok d.store, w)
    else
      let (s, w) := w.addStore
      (.ok s, w)

def createDurableConsumer (s : SessionId) (topic : Destination) (name : String)
    (selector : Option String) (noLocal : Bool) (w : Provider) : Outcome ConsumerId :=
  check (w.openSession s) w fun (session, connection) =>
  check (Selector.parseOptional selector) w fun selector =>
    if topic.kind ≠ .topic then (.error (.notDurable topic), w)
    else
      let key := ⟨connection.clientId, name⟩
      match w.durableStore connection.broker key topic selector with
      | (.error e, w) => (.error e, w)
      | (.ok store, w) =>
        let durable := ⟨key, topic, selector, noLocal, store, true⟩
        let w := w.updateBroker connection.broker
          (·.activate durable (localTo noLocal session.connection))
        let (c, w) := w.addConsumer ⟨s, topic, .durable key noLocal, store, selector, false⟩
        (.ok c, w)

/-! ## Closing -/

def connectionOf (s : SessionId) (w : Provider) : Option Connection :=
  w.sessions[s]?.bind fun session => w.connections[session.connection]?

def releaseSource (c : Consumer) (w : Provider) : Provider :=
  match w.connectionOf c.session with
  | none => w
  | some connection =>
    match c.source with
    | .queue => w
    | .topic _ => w.updateBroker connection.broker (·.detach c.store)
    | .durable key _ => w.updateBroker connection.broker (·.deactivate key)

def closeConsumer (c : ConsumerId) (w : Provider) : Provider :=
  match w.consumers[c]? with
  | none => w
  | some consumer =>
    if consumer.closed then w
    else (w.updateConsumer c ({ · with closed := true })).releaseSource consumer

/-! ## Receiving -/

def takeFrom (s : StoreId) (filter : Option Selector) (w : Provider) :
    Option Envelope × Provider :=
  let store := (w.storeAt s).purge w.now
  match store.take filter with
  | some (e, rest) => (some e, w.updateStore s fun _ => rest)
  | none => (none, w.updateStore s fun _ => store)

/--
Hand out a message, and remember the delivery if the session tracks deliveries.  A closed session
puts the message back.
-/
def deliver (s : SessionId) (session : Session) (store : StoreId) (e : Envelope)
    (w : Provider) : Option Message × Provider :=
  if session.closed then (none, w.updateStore store (·.putBack e))
  else if !session.mode.isTracked then (some e.message, w)
  else
    let tag := session.nextTag
    let token : AckToken := ⟨s, tag⟩
    (some { e.message with ack := if session.mode.isExplicit then some token else e.message.ack },
      w.updateSession s fun session =>
        { session with
          nextTag := tag + 1
          delivered := session.delivered ++ [⟨tag, store, e⟩] })

def takeNext (consumer : Consumer) (w : Provider) : Option Message × Provider :=
  match w.sessions[consumer.session]?, w.takeFrom consumer.store consumer.filter with
  | none, _ => (none, w)
  | _, (none, w) => (none, w)
  | some session, (some e, w) => w.deliver consumer.session session consumer.store e

def isStarted (s : SessionId) (w : Provider) : Bool :=
  (w.connectionOf s).any (·.state == .started)

def receiveNow (c : ConsumerId) (w : Provider) : Outcome (Option Message) :=
  match w.consumers[c]? with
  | none => (.error (.closed .consumer), w)
  | some consumer =>
    if consumer.closed then (.error (.closed .consumer), w)
    else if w.isStarted consumer.session then
      let (m, w) := w.takeNext consumer
      (.ok m, w)
    else (.ok none, w)

def isOpen (s : SessionId) (w : Provider) : Bool := (w.openSession s).isOk

def poll (c : ConsumerId) (w : Provider) : Poll × Provider :=
  match w.consumers[c]? with
  | none => (.finished none, w)
  | some consumer =>
    if consumer.closed || !w.isOpen consumer.session then (.finished none, w)
    else if w.isStarted consumer.session then
      match w.takeNext consumer with
      | (some m, w) => (.finished (some m), w)
      | (none, w) => (.waiting, w)
    else (.waiting, w)

def receive (c : ConsumerId) (w : Provider) : Outcome Poll :=
  match w.consumers[c]? with
  | none => (.error (.closed .consumer), w)
  | some consumer =>
    if consumer.closed then (.error (.closed .consumer), w)
    else
      let (p, w) := w.poll c
      (.ok p, w)

/-- The message for which a receive waits while nothing else happens, or nothing in the end. -/
def receiveBriefly (c : ConsumerId) (w : Provider) : Outcome (Option Message) :=
  match w.receive c with
  | (.error e, w) => (.error e, w)
  | (.ok .waiting, w) => (.ok none, w)
  | (.ok (.finished m), w) => (.ok m, w)

end Provider

end Messaging
