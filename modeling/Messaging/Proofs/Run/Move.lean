import Messaging.Proofs.Run.Event

/-!
# Moves

An operation is a chain of moves.  A move is one change of the provider, with what it adds to the
log and with all that is known when it is made; so what every move keeps holds in every run.
-/

namespace Messaging

/-- A connection that was used: it is not another one, stays open and keeps its client id. -/
structure Connection.Used (x y : Connection) : Prop where
  broker : y.broker = x.broker
  label : y.label = x.label
  clientId : y.clientId = x.clientId
  clientIdFixed : x.clientIdFixed = true → y.clientIdFixed = true
  state : y.state ≠ .closed
  nextTemporary : y.nextTemporary = x.nextTemporary

namespace Provider

variable [Labels]

inductive Move : Provider → List Event → Provider → Prop where
  /-- What only producers, browsers and the clock can tell. -/
  | idle (w : Provider) (clock : Int64) (labels : Nat) (producers : List Producer)
      (browsers : List Browser) (hlabels : w.labels ≤ labels) :
      Move w [] { w with clock, labels, producers, browsers }
  | shutdown (w : Provider) : Move w [] { w with running := [] }
  | startBroker (w : Provider) (name : String) (credentials : Option Credentials) :
      Move w []
        { w with
          running := (name, w.brokers.length) :: w.running
          brokers := w.brokers ++ [{ name, credentials }] }
  | connect (w : Provider) (b : BrokerId) (label id : String) (fixed : Bool)
      (hb : b < w.brokers.length) (hlabel : Labels.request (w.labels + 1) = .ok label)
      (hid : (w.brokerAt b).checkClientId id = .ok ()) (hfixed : fixed = false → id = label) :
      Move w []
        { w.updateBroker b (·.addClientId id) with
          labels := w.labels + 1
          connections := w.connections ++
            [{ broker := b, label := label, clientId := id, clientIdFixed := fixed }] }
  | useConnection (w : Provider) (c : ConnectionId) (x : Connection)
      (f : Connection → Connection) (hopen : w.openConnection c = .ok x) (hf : x.Used (f x)) :
      Move w [] (w.updateConnection c f)
  | setClientId (w : Provider) (c : ConnectionId) (x : Connection) (id : String)
      (hopen : w.openConnection c = .ok x) (hfree : x.clientIdFixed = false)
      (hid : (w.brokerAt x.broker).checkClientId id = .ok ()) :
      Move w []
        ((w.updateBroker x.broker fun b =>
            (b.addClientId id).removeClientId x.clientId).updateConnection c
          ({ · with clientId := id, clientIdFixed := true }))
  | openSession (w : Provider) (c : ConnectionId) (x : Connection) (number : Nat)
      (mode : AckMode) (hopen : w.openConnection c = .ok x) (hfixed : x.clientIdFixed = true) :
      Move w [] { w with sessions := w.sessions ++ [{ connection := c, number, mode }] }
  | addTemporary (w : Provider) (c : ConnectionId) (x : Connection) (kind : DestinationKind)
      (hopen : w.openConnection c = .ok x) (hkind : kind.isTemporary = true) :
      Move w []
        ((w.updateConnection c ({ · with nextTemporary := x.nextTemporary + 1 })).updateBroker
          x.broker (·.addTemporary ⟨kind, s!"{x.label}:{x.nextTemporary}"⟩ c))
  | numberProducer (w : Provider) (s : SessionId) (n : Nat) :
      Move w [] (w.updateSession s ({ · with nextProducer := n }))
  | keep (w : Provider) (s : SessionId) (session : Session) (connection : Connection)
      (d : Destination) (m : Message) (hopen : w.openSession s = .ok (session, connection))
      (hmode : session.mode = .transacted) :
      Move w [.kept s d m]
        (w.updateSession s fun x => { x with buffered := x.buffered ++ [(d, m)] })
  | addQueue (w : Provider) (b : BrokerId) (d : Destination) (hb : b < w.brokers.length)
      (hd : d.isQueue = true) (hlive : (w.brokerAt b).isLive d = true)
      (hnone : (w.brokerAt b).queue? d = none) :
      Move w [] (w.addStore.2.updateBroker b (·.addQueue d w.stores.length))
  | post (w : Provider) (s : StoreId) (m : Message) (origin : ConnectionId)
      (hs : s < w.stores.length) :
      Move w [.posted s (sealed m) origin] (w.updateStore s (·.push (sealed m) origin))
  | consume (w : Provider) (s : SessionId) (session : Session) (connection : Connection)
      (d : Destination) (store : StoreId) (selector : Option Selector)
      (hopen : w.openSession s = .ok (session, connection)) (hd : d.isQueue = true)
      (hallowed : (w.brokerAt connection.broker).checkConsumable d session.connection = .ok ())
      (hstore : (w.brokerAt connection.broker).queue? d = some store) :
      Move w []
        { w with consumers := w.consumers ++ [⟨s, d, .queue, store, selector, false⟩] }
  | subscribe (w : Provider) (s : SessionId) (session : Session) (connection : Connection)
      (d : Destination) (selector : Option Selector) (noLocal : Bool)
      (hopen : w.openSession s = .ok (session, connection)) (hd : d.isQueue = false)
      (hallowed : (w.brokerAt connection.broker).checkConsumable d session.connection = .ok ()) :
      Move w []
        ((w.subscribe connection.broker d selector (localTo noLocal session.connection)).2.addConsumer
          ⟨s, d, .topic noLocal, w.stores.length, selector, false⟩).2
  | attach (w : Provider) (s : SessionId) (session : Session) (connection : Connection)
      (topic : Destination) (name : String) (text : Option String)
      (selector : Option Selector) (noLocal : Bool) (store : StoreId) (next : Provider)
      (hopen : w.openSession s = .ok (session, connection))
      (hselector : Selector.parseOptional text = .ok selector) (htopic : topic.kind = .topic)
      (hstore : w.durableStore connection.broker ⟨connection.clientId, name⟩ topic selector =
        (.ok store, next)) :
      Move w [.attached connection.broker ⟨connection.clientId, name⟩]
        ((next.updateBroker connection.broker
            (·.activate ⟨⟨connection.clientId, name⟩, topic, selector, noLocal, store, true⟩
              (localTo noLocal session.connection))).addConsumer
          ⟨s, topic, .durable ⟨connection.clientId, name⟩ noLocal, store, selector, false⟩).2
  | closeConsumer (w : Provider) (c : ConsumerId) (x : Consumer)
      (hx : w.consumers[c]? = some x) (hopen : x.closed = false) :
      Move w [] ((w.updateConsumer c ({ · with closed := true })).releaseSource x)
  | purge (w : Provider) (s : StoreId) :
      Move w (w.expirations s) (w.updateStore s (·.purge w.now))
  | handOut (w : Provider) (c : ConsumerId) (x : Consumer) (session : Session)
      (connection : Connection) (e : Envelope) (rest : Store)
      (hx : w.consumers[c]? = some x) (hopen : x.closed = false)
      (hsession : w.openSession x.session = .ok (session, connection))
      (hstarted : connection.state = .started) (hlive : e.message.isExpired w.now = false)
      (htake : (w.storeAt x.store).take x.filter = some (e, rest)) :
      Move w (receipt x session e)
        ((w.updateStore x.store fun _ => rest).deliver x.session session x.store e).2
  | acknowledge (w : Provider) (s : SessionId) (session : Session) (connection : Connection)
      (tag : Nat) (hopen : w.openSession s = .ok (session, connection)) :
      Move w
        ((session.delivered.filter (covers session.mode tag)).map fun d =>
          .settled d.store d.envelope.seq (.acknowledged s))
        (w.updateSession s fun x =>
          { x with delivered := x.delivered.filter fun d => !covers session.mode tag d })
  | commit (w : Provider) (s : SessionId) (session : Session) (connection : Connection)
      (hopen : w.openTransaction s = .ok (session, connection)) :
      Move w (committing s session)
        (w.updateSession s ({ · with buffered := [], delivered := [] }))
  | forget (w : Provider) (s : SessionId) (session : Session) (connection : Connection)
      (hopen : w.openTransaction s = .ok (session, connection)) :
      Move w [.ended s] (w.updateSession s ({ · with buffered := [] }))
  | giveBack (w : Provider) (s : SessionId) (session : Session) (older : List Delivery)
      (d : Delivery) (hs : w.sessions[s]? = some session)
      (hd : session.delivered = older ++ [d]) :
      Move w [.putBack s d] (putBack d (w.updateSession s ({ · with delivered := older })))
  | retireSession (w : Provider) (s : SessionId) (session : Session)
      (hs : w.sessions[s]? = some session) (hopen : session.closed = false)
      (hdelivered : session.delivered = [])
      (hconsumers : ∀ x ∈ w.consumers, x.session = s → x.closed = true) :
      Move w [.ended s] (w.updateSession s ({ · with closed := true, buffered := [] }))
  | retireConnection (w : Provider) (c : ConnectionId) (x : Connection)
      (hopen : w.openConnection c = .ok x)
      (hsessions : ∀ y ∈ w.sessions, y.connection = c → y.closed = true) :
      Move w []
        ((w.updateConnection c ({ · with state := .closed })).updateBroker x.broker fun b =>
          (b.releaseTemporaries c).removeClientId x.clientId)
  | unsubscribe (w : Provider) (s : SessionId) (session : Session) (connection : Connection)
      (name : String) (d : Durable) (hopen : w.openSession s = .ok (session, connection))
      (hd : (w.brokerAt connection.broker).durable? ⟨connection.clientId, name⟩ = some d)
      (hinactive : d.active = false) :
      Move w [.removed connection.broker ⟨connection.clientId, name⟩]
        (w.updateBroker connection.broker fun b =>
          (b.removeDurable ⟨connection.clientId, name⟩).detach d.store)

/-- A chain of moves and all that they add to the log. -/
inductive Moves : Provider → List Event → Provider → Prop where
  | refl (w : Provider) : Moves w [] w
  | step {w w' w'' : Provider} {es es' : List Event} (hs : Moves w es w')
      (h : Move w' es' w'') : Moves w (es ++ es') w''

theorem Move.moves {w w' : Provider} {es : List Event} (h : Move w es w') : Moves w es w' :=
  (Moves.refl w).step h

namespace Moves

theorem trans {w w' w'' : Provider} {es es' : List Event} (h : Moves w es w')
    (h' : Moves w' es' w'') : Moves w (es ++ es') w'' := by
  induction h' with
  | refl => simpa using h
  | step _ hmove ih => simpa [List.append_assoc] using ih.step hmove

theorem keeps {P : Provider → Prop}
    (hP : ∀ {w w' : Provider} {es : List Event}, Move w es w' → P w → P w')
    {w w' : Provider} {es : List Event} (h : Moves w es w') (hw : P w) : P w' := by
  induction h with
  | refl => exact hw
  | step _ hmove ih => exact hP hmove ih

end Moves

end Provider

end Messaging
