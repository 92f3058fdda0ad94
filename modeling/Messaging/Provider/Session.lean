import Messaging.Provider.Consumer

/-!
# Sessions

A session groups the consumers and producers of one thread of work.  Deliveries that it tracks
are settled by an acknowledgement or a commit; those that are not go back to the heads of their
stores, oldest first and marked, on a recovery, a rollback and when the session is closed.
-/

namespace Messaging.Provider

/-! ## Opening -/

def createSession (c : ConnectionId) (mode : AckMode) (w : Provider) : Outcome SessionId :=
  check (w.openConnection c) w fun connection =>
    (.ok w.sessions.length,
      { w with
        connections := w.connections.modify c fun connection =>
          { connection with
            clientIdFixed := true
            nextSession := connection.nextSession + 1 }
        sessions := w.sessions ++ [{ connection := c, number := connection.nextSession, mode }] })

/-! ## Destinations and messages -/

def create (s : SessionId) (a : α) (w : Provider) : Outcome α :=
  check (w.openSession s) w fun _ => (.ok a, w)

def createTemporary (s : SessionId) (kind : DestinationKind) (w : Provider) :
    Outcome Destination :=
  check (w.openSession s) w fun (session, connection) =>
    let d : Destination := ⟨kind, s!"{connection.label}:{connection.nextTemporary}"⟩
    let w := w.updateConnection session.connection
      ({ · with nextTemporary := connection.nextTemporary + 1 })
    (.ok d, w.updateBroker connection.broker (·.addTemporary d session.connection))

/-! ## Settling -/

/-- Acknowledge a message that was handed out; any other message needs no acknowledgement. -/
def acknowledge (m : Message) (w : Provider) : Outcome Unit :=
  match m.ack with
  | none => (.ok (), w)
  | some token =>
    check (w.openSession token.session) w fun (session, _) =>
      match session.mode with
      | .client => (.ok (), w.updateSession token.session ({ · with delivered := [] }))
      | .individual =>
        (.ok (), w.updateSession token.session fun session =>
          { session with delivered := session.delivered.filter (·.tag != token.tag) })
      | .auto | .dupsOk | .transacted => (.ok (), w)

def putBack (d : Delivery) (w : Provider) : Provider :=
  let message := d.envelope.message.markRedelivered
  w.updateStore d.store (·.putBack { d.envelope with message })

/-- Put all deliveries back, the newest first, so that the oldest ends up at the head. -/
def redeliver (s : SessionId) (w : Provider) : Provider :=
  match w.sessions[s]? with
  | none => w
  | some session =>
    session.delivered.foldr putBack (w.updateSession s ({ · with delivered := [] }))

def openTransaction (s : SessionId) (w : Provider) : Except Error (Session × Connection) := do
  let (session, connection) ← w.openSession s
  if session.mode = .transacted then return (session, connection) else throw .notTransacted

def commit (s : SessionId) (w : Provider) : Outcome Unit :=
  check (w.openTransaction s) w fun (session, connection) =>
    (w.updateSession s ({ · with buffered := [], delivered := [] })).publishAll
      connection.broker session.connection session.buffered

def rollback (s : SessionId) (w : Provider) : Outcome Unit :=
  check (w.openTransaction s) w fun _ =>
    (.ok (), (w.updateSession s ({ · with buffered := [] })).redeliver s)

/-- Put the deliveries back; a transaction is rolled back instead. -/
def recover (s : SessionId) (w : Provider) : Outcome Unit :=
  check (w.openSession s) w fun (session, _) =>
    if session.mode = .transacted then (.error .transacted, w) else (.ok (), w.redeliver s)

/-! ## Durable subscriptions -/

def unsubscribe (s : SessionId) (name : String) (w : Provider) : Outcome Unit :=
  check (w.openSession s) w fun (_, connection) =>
    let key : DurableKey := ⟨connection.clientId, name⟩
    match (w.brokerAt connection.broker).durable? key with
    | none => (.error (.noSubscription name), w)
    | some d =>
      if d.active then (.error (.stillConsumed name), w)
      else
        (.ok (), w.updateBroker connection.broker fun b =>
          (b.removeDurable key).detach d.store)

/-! ## Closing -/

def consumersOf (s : SessionId) (w : Provider) : List ConsumerId :=
  (List.range w.consumers.length).filter fun c => w.consumers[c]?.any (·.session == s)

def closeSession (s : SessionId) (w : Provider) : Provider :=
  match w.sessions[s]? with
  | none => w
  | some session =>
    if session.closed then w
    else
      let w := w.updateSession s ({ · with closed := true, buffered := [] })
      let w := (w.consumersOf s).foldl (fun w c => w.closeConsumer c) w
      w.redeliver s

end Messaging.Provider
